import Mathlib
import PmuSimulator.Server.Core
import PmuSimulator.Scenario.Window

/-!
# Reporting ticks and their timestamps

The scheduler counts ticks with the monotonic clock and the wall clock gives each of them a
timestamp. Ticks are given out in increasing order, and those left out are counted; the timestamp of
a tick is exactly as many reporting intervals behind the first as the tick is. Both counters saturate
at the end of their range, far behind what the timestamps can express.
-/

namespace PmuSimulator

/-- A data rate and a `TIME_BASE` that `validate_fleet` admits. -/
structure AdmittedRate (dataRateHz : UInt16) (timeBase : UInt32) : Prop where
  rate : dataRateHz = 50
  positive : 1 ≤ timeBase.toNat
  fits : timeBase.toNat ≤ 0x00ffffff
  multiple : timeBase.toNat % dataRateHz.toNat = 0

namespace AdmittedRate

variable {dataRateHz : UInt16} {timeBase : UInt32}

lemma toNat (h : AdmittedRate dataRateHz timeBase) : dataRateHz.toNat = 50 := by
  rw [h.rate]
  rfl

/-- A second is fifty reporting intervals. -/
lemma fifty_mul (h : AdmittedRate dataRateHz timeBase) :
    50 * (timeBase.toNat / dataRateHz.toNat) = timeBase.toNat := by
  have hmultiple := h.multiple
  rw [h.toNat] at hmultiple ⊢
  omega

lemma interval_pos (h : AdmittedRate dataRateHz timeBase) :
    0 < timeBase.toNat / dataRateHz.toNat := by
  have hpositive := h.positive
  have hfifty := h.fifty_mul
  omega

end AdmittedRate

/-! ### Ticks -/

/-- The scheduler over any sequence of times. -/
def schedulerMachine : Machine Scheduler Instant (Option (Nat × Nat)) Failure :=
  ⟨fun scheduler now => .ok (scheduler.takeDue now)⟩

namespace Scheduler

variable {s s' : Scheduler} {now : Instant} {i skipped : Nat}

lemma takeDue_isSome : (s.takeDue now).1.isSome ↔ s.nextSampleIndex ≤ s.currentIndex now := by
  unfold takeDue
  by_cases h : s.currentIndex now < s.nextSampleIndex
  · simp [h, Nat.not_le.mpr h]
  · simp [h, Nat.not_lt.mp h]

/-- A tick that is taken, before the index saturates. -/
lemma takeDue_some (h : s.takeDue now = (some (i, skipped), s'))
    (hreach : s.currentIndex now < u64Max) :
    i = s.currentIndex now ∧ i = s.nextSampleIndex + skipped ∧
      s' = { s with nextSampleIndex := i + 1 } := by
  unfold takeDue at h
  by_cases hlt : s.currentIndex now < s.nextSampleIndex
  · simp [hlt] at h
  · simp only [hlt, if_false, Prod.mk.injEq, Option.some.injEq] at h
    obtain ⟨⟨rfl, rfl⟩, rfl⟩ := h
    refine ⟨rfl, by omega, ?_⟩
    rw [Nat.min_eq_left (by omega)]

lemma takeDue_none (h : s.takeDue now = (none, s')) : s' = s := by
  unfold takeDue at h
  by_cases hlt : s.currentIndex now < s.nextSampleIndex
  · simp only [hlt, if_true, Prod.mk.injEq, true_and] at h
    exact h.symm
  · simp [hlt] at h

/-- Waiting is over exactly when a tick is due, while the offset of the next one fits. -/
lemma timeout_eq_zero_iff (hrate : s.dataRateHz.toNat = 50) (hstarted : s.started ≤ now)
    (hnext : s.nextSampleIndex ≤ u64Max)
    (hfits : s.nextSampleIndex * nanosPerSecond / s.dataRateHz.toNat ≤ u64Max) :
    s.timeout now = 0 ↔ (s.takeDue now).1.isSome := by
  have hoffset : sampleOffset s.nextSampleIndex s.dataRateHz =
      s.nextSampleIndex * nanosPerSecond / s.dataRateHz.toNat := Nat.min_eq_left hfits
  rw [takeDue_isSome, timeout, hoffset, currentIndex, Nat.le_min, Nat.sub_eq_zero_iff_le]
  simp only [hrate, hnext, and_true, nanosPerSecond]
  have hsplit : s.started + (now - s.started) = now := Nat.add_sub_of_le hstarted
  generalize now - s.started = elapsed at hsplit ⊢
  subst hsplit
  omega

/-- What a sequence of times has given out: the ticks taken, each with the ticks skipped before it,
and the next sample index. -/
structure Sampled (taken : List (Nat × Nat)) (next : Nat) : Prop where
  count : taken.length + (taken.map Prod.snd).sum = next
  below : ∀ r ∈ taken, r.1 < next
  increasing : (taken.map Prod.fst).Pairwise (· < ·)
  successive : taken.IsChain fun a b => b.1 = a.1 + (1 + b.2)
  last : ∀ r ∈ taken.getLast?, r.1 + 1 = next

namespace Sampled

lemma empty : Sampled [] 0 where
  count := rfl
  below := by simp
  increasing := .nil
  successive := .nil
  last := by simp

/-- One more tick is taken. -/
lemma snoc {taken : List (Nat × Nat)} {next : Nat} (h : Sampled taken next) (skipped : Nat) :
    Sampled (taken ++ [(next + skipped, skipped)]) (next + skipped + 1) where
  count := by
    have hcount := h.count
    simp only [List.length_append, List.length_singleton, List.map_append, List.map_cons,
      List.map_nil, List.sum_append, List.sum_cons, List.sum_nil]
    omega
  below := by
    intro r hr
    rcases List.mem_append.mp hr with hr | hr
    · have := h.below r hr
      omega
    · obtain rfl := List.mem_singleton.mp hr
      exact Nat.lt_succ_self _
  increasing := by
    rw [List.map_append, List.pairwise_append]
    refine ⟨h.increasing, List.pairwise_singleton _ _, fun a ha b hb => ?_⟩
    obtain ⟨r, hr, rfl⟩ := List.mem_map.mp ha
    obtain rfl := List.mem_singleton.mp hb
    exact (h.below r hr).trans_le (Nat.le_add_right _ _)
  successive := by
    rw [List.isChain_append]
    refine ⟨h.successive, .singleton _, fun a ha b hb => ?_⟩
    obtain rfl : (next + skipped, skipped) = b := by simpa using hb
    have hlast := h.last a ha
    simp only
    omega
  last := by simp

end Sampled

/-- Every run of a new scheduler, while the index does not saturate. -/
lemma sampled_of_run {dataRateHz : UInt16} {started : Instant}
    {h : List (Machine.Taken Scheduler Instant (Option (Nat × Nat)))}
    (run : schedulerMachine.Run (.new dataRateHz started) h s)
    (hreach : ∀ x ∈ h, x.before.currentIndex x.input < u64Max) :
    Sampled (h.filterMap Machine.Taken.output) s.nextSampleIndex ∧ s.nextSampleIndex ≤ u64Max ∧
      s.dataRateHz = dataRateHz ∧ s.started = started := by
  revert hreach
  refine run.history
    (P := fun h s => (∀ x ∈ h, x.before.currentIndex x.input < u64Max) →
      Sampled (h.filterMap Machine.Taken.output) s.nextSampleIndex ∧ s.nextSampleIndex ≤ u64Max ∧
        s.dataRateHz = dataRateHz ∧ s.started = started)
    ?_ ?_
  · exact fun _ => ⟨Sampled.empty, Nat.zero_le _, rfl, rfl⟩
  intro h r now o r' _ ih hs hreach
  obtain ⟨hsampled, hle, hrate, hstarted⟩ := ih fun x hx => hreach x (by simp [hx])
  have hlt : r.currentIndex now < u64Max := hreach ⟨r, now, o, r'⟩ (by simp)
  have hs : r.takeDue now = (o, r') := Except.ok.inj hs
  rw [List.filterMap_append]
  cases o with
  | none =>
    obtain rfl := takeDue_none hs
    simpa using ⟨hsampled, hle, hrate, hstarted⟩
  | some tick =>
    obtain ⟨i, skipped⟩ := tick
    obtain ⟨hdue, hi, rfl⟩ := takeDue_some hs hlt
    refine ⟨?_, ?_, hrate, hstarted⟩
    · simp only [hi]
      exact hsampled.snoc skipped
    · simp only
      omega

end Scheduler

/-! ### Timestamps -/

/-- A timestamp in units of `TIME_BASE`. -/
def Timestamp.ticks (timestamp : Timestamp) (timeBase : Nat) : Nat :=
  timestamp.soc.toNat * timeBase + timestamp.fracsec.toNat

lemma truncateToU32_toNat {n : Nat} (h : n < 2 ^ 32) : (truncateToU32 n).toNat = n := by
  rw [truncateToU32, Nat.mod_eq_of_lt h, UInt32.toNat_ofNat']
  exact Nat.mod_eq_of_lt h

lemma saturatingAddU32_toNat {a b : UInt32} (h : a.toNat + b.toNat ≤ u32Max) :
    (saturatingAddU32 a b).toNat = a.toNat + b.toNat := by
  rw [saturatingAddU32, Nat.min_eq_left h, UInt32.toNat_ofNat']
  refine Nat.mod_eq_of_lt ?_
  simp only [u32Max] at h
  omega

namespace WallClock

variable {dataRateHz : UInt16} {timeBase : UInt32}

/-- A wall clock whose first timestamp is a boundary of its interval. -/
structure Aligned (clock : WallClock) (dataRateHz : UInt16) (timeBase : UInt32) : Prop where
  interval : clock.ticksPerFrame = timeBase.toNat / dataRateHz.toNat
  base : clock.timeBase = timeBase.toNat
  within : clock.firstTimestamp.fracsec.toNat < timeBase.toNat
  boundary : timeBase.toNat / dataRateHz.toNat ∣ clock.firstTimestamp.fracsec.toNat

lemma alignedTimestamp_boundary (admitted : AdmittedRate dataRateHz timeBase) {now : Duration}
    {timestamp : Timestamp} (h : alignedTimestamp now dataRateHz timeBase = .ok timestamp) :
    timestamp.fracsec.toNat < timeBase.toNat ∧
      timeBase.toNat / dataRateHz.toNat ∣ timestamp.fracsec.toNat := by
  have hfifty := admitted.fifty_mul
  have hpos := admitted.interval_pos
  have hfits := admitted.fits
  simp only [alignedTimestamp] at h
  generalize hk : (min (now / nanosPerSecond * timeBase.toNat) u64Max +
    now % nanosPerSecond * timeBase.toNat / nanosPerSecond) % 2 ^ 64 = total at h
  generalize hinterval : timeBase.toNat / dataRateHz.toNat = interval at *
  generalize (total / interval + 1) % 2 ^ 64 = k at h
  split_ifs at h with hzero hlarge
  obtain rfl := Except.ok.inj h
  -- the second fits, so the ticks are far from saturating
  have hticks : min (k * interval) u64Max = k * interval := by
    refine Nat.min_eq_left (Nat.le_of_not_lt fun hover => hlarge ?_)
    rw [Nat.min_eq_right hover.le]
    refine lt_of_lt_of_le (b := u64Max / 0x00ffffff) (by decide) ?_
    exact Nat.div_le_div_left hfits (by omega)
  simp only [hticks]
  have hlt : k * interval % timeBase.toNat < timeBase.toNat :=
    Nat.mod_lt _ (Nat.lt_of_lt_of_le Nat.zero_lt_one admitted.positive)
  rw [truncateToU32_toNat (hlt.trans_le (hfits.trans (by decide)))]
  refine ⟨hlt, ?_⟩
  rw [← hfifty, Nat.mul_comm 50, Nat.mul_comm k, Nat.mul_mod_mul_left]
  exact Nat.dvd_mul_right _ _

/-- The wall clock of a start is aligned. -/
lemma aligned_of_start (admitted : AdmittedRate dataRateHz timeBase) {wallClock : SystemTime}
    {now started : Instant} {clock : WallClock}
    (h : alignedStart dataRateHz timeBase wallClock now = .ok (clock, started)) :
    clock.Aligned dataRateHz timeBase := by
  unfold alignedStart at h
  cases hepoch : wallClock.sinceEpoch with
  | none => simp [hepoch] at h
  | some sinceEpoch =>
    simp only [hepoch] at h
    cases hfirst : alignedTimestamp sinceEpoch dataRateHz timeBase with
    | error e => simp [hfirst] at h
    | ok first =>
      simp only [hfirst] at h
      obtain ⟨rfl, -⟩ := ok_pair_eq.mp h
      obtain ⟨hwithin, hboundary⟩ := alignedTimestamp_boundary admitted hfirst
      exact ⟨rfl, rfl, hwithin, hboundary⟩

/-- The timestamp of a sample whose second fits is exact, and a boundary of the interval. -/
lemma timestampForSample_exact (admitted : AdmittedRate dataRateHz timeBase) {clock : WallClock}
    (aligned : clock.Aligned dataRateHz timeBase) {i : Nat}
    (hsecond : (clock.firstTimestamp.ticks timeBase.toNat +
      i * (timeBase.toNat / dataRateHz.toNat)) / timeBase.toNat ≤ u32Max) :
    (clock.timestampForSample i).ticks timeBase.toNat =
        clock.firstTimestamp.ticks timeBase.toNat + i * (timeBase.toNat / dataRateHz.toNat) ∧
      (clock.timestampForSample i).fracsec.toNat < timeBase.toNat ∧
      timeBase.toNat / dataRateHz.toNat ∣ (clock.timestampForSample i).fracsec.toNat := by
  obtain ⟨hinterval, hbase, hwithin, hboundary⟩ := aligned
  have hfifty := admitted.fifty_mul
  have hpos := admitted.positive
  have hfits := admitted.fits
  simp only [timestampForSample, Timestamp.ticks, hinterval, hbase] at hsecond ⊢
  generalize timeBase.toNat = base at *
  generalize base / dataRateHz.toNat = interval at *
  generalize clock.firstTimestamp.soc = soc at *
  generalize clock.firstTimestamp.fracsec.toNat = fracsec at *
  have hbound : soc.toNat * base + fracsec + i * interval < (u32Max + 1) * 0x01000000 := by
    have hlt := (Nat.div_lt_iff_lt_mul (by omega)).mp (Nat.lt_succ_of_le hsecond)
    exact hlt.trans_le (Nat.mul_le_mul_left _ (by omega))
  have hticks : (fracsec + min (i * interval) u64Max) % 2 ^ 64 = fracsec + i * interval := by
    have hsmall : i * interval ≤ u64Max := by
      simp only [u64Max, u32Max] at hbound ⊢
      omega
    rw [Nat.min_eq_left hsmall]
    refine Nat.mod_eq_of_lt ?_
    simp only [u32Max] at hbound
    omega
  have hcarry : soc.toNat + (fracsec + i * interval) / base ≤ u32Max := by
    rw [Nat.add_assoc, Nat.mul_comm soc.toNat, Nat.mul_add_div (by omega)] at hsecond
    exact hsecond
  have hlt : (fracsec + i * interval) % base < base := Nat.mod_lt _ (by omega)
  simp only [hticks]
  rw [truncateToU32_toNat (n := (fracsec + i * interval) % base) (by omega),
    saturatingAddU32_toNat]
  · rw [truncateToU32_toNat (by simp only [u32Max] at hcarry; omega)]
    refine ⟨?_, hlt, ?_⟩
    · have hdiv := Nat.div_add_mod (fracsec + i * interval) base
      rw [Nat.add_mul, Nat.mul_comm ((fracsec + i * interval) / base)]
      omega
    · refine (Nat.dvd_mod_iff (Dvd.intro_left 50 hfifty)).mpr ?_
      exact Nat.dvd_add hboundary (Nat.dvd_mul_left _ _)
  · rw [truncateToU32_toNat (by simp only [u32Max] at hcarry; omega)]
    exact hcarry

end WallClock

/-! ### The controller at a boundary -/

section Loop

variable {registry : Registry} {codec : ManagementCodec} {l₀ l : EventLoop}
  {h : List (Machine.Taken EventLoop Input (List Report))}

/-- The controller has not seen the sample index that is next, nor any behind it. -/
def ServerCore.Behind (core : ServerCore) : Prop :=
  ∀ c ∈ core.scenarioController, ∀ previous ∈ c.currentSampleIndex,
    previous < core.scheduler.nextSampleIndex

open ScenarioController in
lemma currentSampleIndex_of_requests {c c' : ScenarioController} {steps : List ControllerTaken}
    (hc : Coherent c ∧ c.revision ≤ u64Max) (run : controllerMachine.Run c steps c')
    (requests : ∀ x ∈ steps, x.input.IsRequest) :
    c'.currentSampleIndex = c.currentSampleIndex := by
  revert requests
  refine (invariant_of_run
    (P := fun steps c' => (∀ x ∈ steps, x.input.IsRequest) →
      c'.currentSampleIndex = c.currentSampleIndex) hc (fun _ => rfl) ?_ run)
  intro steps r i o r' _ he ih requests
  rcases active_same_or_crossed he with ⟨-, hsame, -⟩ | ⟨n, active, hi, -⟩
  · exact hsame.trans (ih fun x hx => requests x (by simp [hx]))
  · exact absurd hi (requests ⟨r, i, o, r'⟩ (by simp) n)

/-- The index a due boundary takes, before the index saturates. -/
def ServerCore.Reaches (core : ServerCore) (input : Input) : Prop :=
  ∀ answers, input = .boundary answers → core.scheduler.currentIndex answers.now < u64Max

instance decidableReaches (core : ServerCore) : (input : Input) → Decidable (core.Reaches input)
  | .event _ => .isTrue fun _ h => by cases h
  | .expire _ => .isTrue fun _ h => by cases h
  | .boundary answers => decidable_of_iff (core.scheduler.currentIndex answers.now < u64Max)
    ⟨fun hlt _ h => Input.boundary.inj h ▸ hlt, fun hreach => hreach answers rfl⟩

open ScenarioController in
lemma CoreStep.behind {core core' : ServerCore} {input : Input} (h : CoreStep core input core')
    (hcoherent : ∀ c ∈ core.scenarioController, Coherent c ∧ c.revision ≤ u64Max)
    (hreach : core.Reaches input) (hbehind : core.Behind) : core'.Behind := by
  cases h with
  | @asks event steps c' run requests =>
    rintro c rfl previous hprevious
    cases hc : core.scenarioController with
    | none =>
      rw [hc] at run
      cases run
    | some d =>
      rw [hc] at run
      have hsame := currentSampleIndex_of_requests (hcoherent d hc) run requests
      exact hbehind d hc previous (hsame ▸ hprevious)
  | expire => exact hbehind
  | waits => exact hbehind
  | refused due refused =>
    obtain ⟨-, hi, rfl⟩ := Scheduler.takeDue_some due (hreach _ rfl)
    intro c hc previous hprevious
    have hlt := hbehind c hc previous hprevious
    simp only [ServerCore.observed]
    omega
  | crosses due advanced =>
    obtain ⟨-, hi, rfl⟩ := Scheduler.takeDue_some due (hreach _ rfl)
    rintro c rfl previous hprevious
    rcases Server.advanceController_ok advanced with ⟨-, hnone⟩ | ⟨d, d', hd, hd', hstep⟩
    · cases hnone
    · obtain rfl := Option.some.inj hd'
      obtain ⟨he, -⟩ := (hcoherent d hd).1.effect (hcoherent d hd).2 hstep
      rcases active_same_or_crossed he with ⟨-, -, hout⟩ | ⟨n, active, hn, -, -, -, rfl⟩
      · exact absurd rfl hout
      · obtain rfl := ControllerInput.advanceBoundary.inj hn
        obtain rfl : _ = previous := Option.some.inj hprevious
        exact Nat.lt_succ_self _

lemma behind_of_run (started : StartedCompiled l₀)
    (run : (eventLoop registry codec).Run l₀ h l)
    (hreach : ∀ x ∈ h, x.before.server.core.Reaches x.input) : l.server.core.Behind := by
  revert hreach
  refine run.history
    (P := fun h l => (∀ x ∈ h, x.before.server.core.Reaches x.input) → l.server.core.Behind) ?_ ?_
  · rintro - c hc previous hprevious
    obtain ⟨-, input, hbind, -⟩ := started
    have hnew : c ∈ l₀.server.scenarioController := hc
    rw [bindInner_controller hbind] at hnew
    obtain ⟨catalog, -, rfl⟩ := Option.mem_map.mp hnew
    cases hprevious
  · intro h r input log r' hr ih hs hreach
    refine (EventLoop.step_core hs).behind (coherent_of_loop started hr) ?_ (ih fun x hx => ?_)
    · exact hreach ⟨r, input, log, r'⟩ (by simp)
    · exact hreach x (by simp [hx])

/-- The boundary of a tick that is taken is later than every boundary before it. -/
lemma advanceBoundary_not_refused {core : ServerCore} (hbehind : core.Behind)
    {c c' : ScenarioController} (hc : c ∈ core.scenarioController) {now : Instant}
    {sampleIndex skipped : Nat}
    (due : (core.scheduler.takeDue now).1 = some (sampleIndex, skipped))
    (error : ScenarioControllerError) :
    c.advanceBoundary sampleIndex ≠ .ok (.error error, c') := by
  intro hrefused
  have hnext : core.scheduler.nextSampleIndex ≤ sampleIndex := by
    unfold Scheduler.takeDue at due
    by_cases hlt : core.scheduler.currentIndex now < core.scheduler.nextSampleIndex
    · simp [hlt] at due
    · simp only [hlt, if_false, Option.some.injEq, Prod.mk.injEq] at due
      omega
  unfold ScenarioController.advanceBoundary at hrefused
  cases hprevious : c.currentSampleIndex with
  | none =>
    simp only [hprevious] at hrefused
    obtain ⟨d, -, h⟩ := bind_eq_ok.mp hrefused
    cases h
  | some previous =>
    have hlt := hbehind c hc previous hprevious
    simp only [hprevious, if_neg (show ¬ sampleIndex ≤ previous by omega)] at hrefused
    obtain ⟨d, -, h⟩ := bind_eq_ok.mp hrefused
    cases h

/-- Ticks are given out in increasing order, each with the number of ticks skipped before it, and all
are accounted for; waiting is over exactly when one is due; the controller never refuses the boundary
of one; and timestamps are exact. Indices must stay below the last of their range, and the offset of
the next tick must fit its range of nanoseconds. -/
theorem reporting_ticks {dataRateHz : UInt16} {timeBase : UInt32}
    (admitted : AdmittedRate dataRateHz timeBase) :
    (∀ (started : Instant) (h : List (Machine.Taken Scheduler Instant (Option (Nat × Nat))))
        (s : Scheduler), schedulerMachine.Run (.new dataRateHz started) h s →
        (∀ x ∈ h, x.before.currentIndex x.input < u64Max) →
      Scheduler.Sampled (h.filterMap Machine.Taken.output) s.nextSampleIndex ∧
        ∀ now, started ≤ now →
          s.nextSampleIndex * nanosPerSecond / dataRateHz.toNat ≤ u64Max →
            (s.timeout now = 0 ↔ (s.takeDue now).1.isSome)) ∧
      (∀ (wallClock : SystemTime) (now started : Instant) (clock : WallClock),
        WallClock.alignedStart dataRateHz timeBase wallClock now = .ok (clock, started) →
        ∀ i, (clock.firstTimestamp.ticks timeBase.toNat +
            i * (timeBase.toNat / dataRateHz.toNat)) / timeBase.toNat ≤ u32Max →
          (clock.timestampForSample i).ticks timeBase.toNat =
              clock.firstTimestamp.ticks timeBase.toNat +
                i * (timeBase.toNat / dataRateHz.toNat) ∧
            (clock.timestampForSample i).fracsec.toNat < timeBase.toNat ∧
            timeBase.toNat < 2 ^ 24 ∧
            timeBase.toNat / dataRateHz.toNat ∣ (clock.timestampForSample i).fracsec.toNat ∧
            ∀ j skipped, i = j + (1 + skipped) →
              (clock.timestampForSample i).ticks timeBase.toNat =
                (clock.timestampForSample j).ticks timeBase.toNat +
                  (1 + skipped) * (timeBase.toNat / dataRateHz.toNat)) ∧
      ∀ (registry : Registry) (codec : ManagementCodec) (l₀ l : EventLoop)
        (h : List (Machine.Taken EventLoop Input (List Report))), StartedCompiled l₀ →
        (eventLoop registry codec).Run l₀ h l →
        (∀ x ∈ h, x.before.server.core.Reaches x.input) →
        ∀ (now : Instant) (sampleIndex skipped : Nat),
          (l.server.scheduler.takeDue now).1 = some (sampleIndex, skipped) →
          ∀ c ∈ l.server.scenarioController, ∀ error c',
            c.advanceBoundary sampleIndex ≠ .ok (.error error, c') := by
  refine ⟨?_, ?_, ?_⟩
  · intro started h s run hreach
    obtain ⟨hsampled, hnext, hrate, hstarted⟩ := Scheduler.sampled_of_run run hreach
    refine ⟨hsampled, fun now hnow hfits => ?_⟩
    refine Scheduler.timeout_eq_zero_iff ?_ (hstarted ▸ hnow) hnext (hrate ▸ hfits)
    rw [hrate, admitted.toNat]
  · intro wallClock now started clock hclock i hsecond
    have aligned := WallClock.aligned_of_start admitted hclock
    obtain ⟨hticks, hwithin, hboundary⟩ :=
      WallClock.timestampForSample_exact admitted aligned hsecond
    have hfits := admitted.fits
    refine ⟨hticks, hwithin, by omega, hboundary, ?_⟩
    rintro j skipped rfl
    have hearlier := (WallClock.timestampForSample_exact admitted aligned (i := j)
      (le_trans (Nat.div_le_div_right (by
        rw [Nat.add_mul]
        omega)) hsecond)).1
    rw [hticks, hearlier, Nat.add_mul, Nat.add_assoc]
  · intro registry codec l₀ l h started run hreach now sampleIndex skipped due c hc error c'
    exact advanceBoundary_not_refused (behind_of_run started run hreach)
      hc due error

lemma admittedRate_50 : AdmittedRate 50 1000000 := ⟨rfl, by decide, by decide, by decide⟩

/-- Ticks are skipped, timestamps are as far apart as the ticks are, and a server has crossed two
boundaries when the third is due. -/
theorem reporting_ticks_small :
    (∃ s : Scheduler, s.nextSampleIndex = 6 ∧
      Scheduler.Sampled [(0, 0), (1, 0), (5, 3)] s.nextSampleIndex ∧
        (s.timeout 120001000 = 0 ↔ (s.takeDue 120001000).1.isSome)) ∧
    (∃ clock started, WallClock.alignedStart 50 1000000 1700000000013000000 0 =
        .ok (clock, started) ∧
      (clock.timestampForSample 5).ticks 1000000 =
        (clock.timestampForSample 1).ticks 1000000 + (1 + 3) * (1000000 / 50)) ∧
    ∃ (l : EventLoop) (c : ScenarioController), c ∈ l.server.scenarioController ∧
      c.currentSampleIndex = some 1 ∧
      (l.server.scheduler.takeDue 60000000).1 = some (2, 0) ∧
      ∀ error c', c.advanceBoundary 2 ≠ .ok (.error error, c') := by
  obtain ⟨hticks, htimestamps, hboundaries⟩ := reporting_ticks admittedRate_50
  refine ⟨?_, ?_, ?_⟩
  · have first : schedulerMachine.Run (.new 50 1000) _ ⟨1000, 50, 1⟩ :=
      Machine.Run.nil.snoc (e := 1000) (o := some (0, 0)) rfl
    have second : schedulerMachine.Run (.new 50 1000) _ ⟨1000, 50, 2⟩ :=
      first.snoc (e := 20001000) (o := some (1, 0)) rfl
    have run : schedulerMachine.Run (.new 50 1000) _ ⟨1000, 50, 6⟩ :=
      second.snoc (e := 100001000) (o := some (5, 3)) rfl
    obtain ⟨hsampled, htimeout⟩ := hticks 1000 _ _ run (by decide)
    exact ⟨_, rfl, hsampled, htimeout 120001000 (by decide) (by decide)⟩
  · have hclock : WallClock.alignedStart 50 1000000 1700000000013000000 0 =
        .ok (⟨⟨1700000000, 20000⟩, 20000, 1000000⟩, 7000000) := by
      decide +kernel
    obtain ⟨-, -, -, -, happart⟩ := htimestamps _ _ _ _ hclock 5 (by decide)
    exact ⟨_, _, hclock, happart 1 3 rfl⟩
  · have htrace : soleTrace .v2 (some smallCatalog) [boundaryAnswered 20000000 (.accepts 0),
        boundaryAnswered 40000000 (.accepts 0)] (fun steps l =>
          (steps.all fun x => decide (x.before.server.core.Reaches x.input)) &&
          l.server.scenarioController.any (fun c => decide (c.currentSampleIndex = some 1)) &&
          decide ((l.server.scheduler.takeDue 60000000).1 = some (2, 0))) = true := by
      decide +kernel
    obtain ⟨server, steps, l, hbind, -, run, hcheck⟩ := bound_of_soleTrace htrace
    simp only [Bool.and_eq_true] at hcheck
    obtain ⟨⟨hreach, hcontroller⟩, hdue⟩ := hcheck
    obtain ⟨c, hc, hcrossed⟩ := (Option.any_eq_true _ _).mp hcontroller
    have started : StartedCompiled ⟨server, none⟩ := by
      refine ⟨rfl, _, hbind, fun catalog hcatalog => ?_⟩
      obtain rfl := Option.some.inj hcatalog
      exact ⟨_, compileCatalog_small⟩
    refine ⟨l, c, hc, of_decide_eq_true hcrossed, of_decide_eq_true hdue, ?_⟩
    exact hboundaries _ _ _ l steps started run
      (fun x hx => of_decide_eq_true (List.all_eq_true.mp hreach x hx)) 60000000 2 0
      (of_decide_eq_true hdue) c hc

/-- Half a millennium in, the offset of the next tick saturates: there is nothing to wait for, and
nothing is due. -/
theorem timeout_saturates : ¬ ∀ (h : List (Machine.Taken Scheduler Instant (Option (Nat × Nat))))
    (s : Scheduler), schedulerMachine.Run (.new 50 0) h s → (h.map Machine.Taken.input).Pairwise (· ≤ ·) →
      ∀ now, (∀ x ∈ h, x.input ≤ now) → now ≤ instantMax →
        (s.timeout now = 0 ↔ (s.takeDue now).1.isSome) := by
  intro hall
  have run : schedulerMachine.Run (.new 50 0) _ ⟨0, 50, 922337203686⟩ :=
    Machine.Run.nil.snoc (e := 2 ^ 64) (o := some (922337203685, 922337203685)) (by decide)
  have hwrong := (hall _ _ run (by simp) (2 ^ 64) (by simp) (by decide)).mp (by decide)
  exact absurd hwrong (by decide)

end Loop

end PmuSimulator
