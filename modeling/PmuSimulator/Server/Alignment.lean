import Mathlib
import PmuSimulator.Server.Reporting

/-!
# The aligned start

Sampling starts at the first reporting boundary after the wall clock was read. The code counts in
ticks of `TIME_BASE` and in nanoseconds; here an instant is a rational number of seconds after the
epoch, and both counts are exact.
-/

namespace PmuSimulator

/-! ### Boundaries -/

/-- The instants that are a multiple of `1 / rate` within their second. -/
def boundaries (rate : ℕ) : Set ℚ :=
  {t | ∃ second frame : ℕ, frame < rate ∧ t = second + frame / rate}

variable {rate units : ℕ}

lemma mem_boundaries (hrate : 0 < rate) {t : ℚ} : t ∈ boundaries rate ↔ ∃ k : ℕ, t = k / rate := by
  have hne : (rate : ℚ) ≠ 0 := Nat.cast_ne_zero.mpr hrate.ne'
  constructor
  · rintro ⟨second, frame, -, rfl⟩
    refine ⟨second * rate + frame, ?_⟩
    push_cast
    rw [add_div, mul_div_cancel_right₀ _ hne]
  · rintro ⟨k, rfl⟩
    refine ⟨k / rate, k % rate, Nat.mod_lt _ hrate, ?_⟩
    rw [eq_comm, ← mul_div_cancel_right₀ ((k / rate : ℕ) : ℚ) hne, ← add_div]
    congr 1
    exact_mod_cast Nat.div_add_mod' k rate

/-- The first boundary after an instant that is counted in units of a second. -/
lemma isLeast_boundary (hrate : 0 < rate) (hunits : 0 < units) (now : ℕ) :
    IsLeast {t ∈ boundaries rate | (now : ℚ) / units < t}
      (((now * rate / units + 1 : ℕ) : ℚ) / rate) := by
  have hrate' : (0 : ℚ) < rate := Nat.cast_pos.mpr hrate
  have hunits' : (0 : ℚ) < units := Nat.cast_pos.mpr hunits
  have hafter (k : ℕ) : (now : ℚ) / units < k / rate ↔ now * rate < k * units := by
    rw [div_lt_div_iff₀ hunits' hrate']
    exact_mod_cast Iff.rfl
  constructor
  · refine ⟨(mem_boundaries hrate).mpr ⟨_, rfl⟩, (hafter _).mpr ?_⟩
    rw [Nat.mul_comm (_ + 1)]
    exact Nat.lt_mul_div_succ _ hunits
  · rintro t ⟨hmem, hlt⟩
    obtain ⟨k, rfl⟩ := (mem_boundaries hrate).mp hmem
    have hk : now * rate / units < k := (Nat.div_lt_iff_lt_mul hunits).mpr ((hafter k).mp hlt)
    rw [div_le_div_iff_of_pos_right hrate']
    exact_mod_cast hk

/-! ### The first timestamp -/

/-- A timestamp in seconds. -/
def Timestamp.seconds (timestamp : Timestamp) (timeBase : ℕ) : ℚ :=
  timestamp.soc.toNat + timestamp.fracsec.toNat / timeBase

/-- The boundary that follows a reading of the wall clock, as a number of reporting intervals. -/
def intervalsUntil (now : Duration) (dataRateHz : UInt16) : ℕ :=
  now * dataRateHz.toNat / nanosPerSecond + 1

section Start

variable {dataRateHz : UInt16} {timeBase : UInt32} {now : Duration}

/-- Whole seconds and the rest of a second, each turned into ticks, are all ticks. -/
lemma wholeTicks (now base : ℕ) :
    now / nanosPerSecond * base + now % nanosPerSecond * base / nanosPerSecond =
      now * base / nanosPerSecond := by
  have hsplit : now * base =
      nanosPerSecond * (now / nanosPerSecond * base) + now % nanosPerSecond * base := by
    conv_lhs => rw [← Nat.div_add_mod now nanosPerSecond]
    ring
  rw [hsplit, Nat.mul_add_div (by decide)]

/-- The ticks until now hold as many intervals as the time until now. -/
lemma ticks_div_interval (admitted : AdmittedRate dataRateHz timeBase) :
    now * timeBase.toNat / nanosPerSecond / (timeBase.toNat / dataRateHz.toNat) =
      now * dataRateHz.toNat / nanosPerSecond := by
  have hfifty := admitted.fifty_mul
  have hpos := admitted.interval_pos
  rw [admitted.toNat] at hfifty hpos ⊢
  generalize timeBase.toNat / 50 = interval at hfifty hpos ⊢
  rw [← hfifty, Nat.div_div_eq_div_mul, ← Nat.mul_assoc, Nat.mul_div_mul_right _ _ hpos]

/-- A boundary whose second fits is reached without saturating. -/
lemma alignedTimestamp_eq (admitted : AdmittedRate dataRateHz timeBase)
    (hfits : intervalsUntil now dataRateHz / dataRateHz.toNat ≤ u32Max) :
    ∃ timestamp, alignedTimestamp now dataRateHz timeBase = .ok timestamp ∧
      timestamp.soc.toNat = intervalsUntil now dataRateHz / dataRateHz.toNat ∧
      timestamp.fracsec.toNat =
        intervalsUntil now dataRateHz % dataRateHz.toNat *
          (timeBase.toNat / dataRateHz.toNat) := by
  have hticks : now * timeBase.toNat / nanosPerSecond / (timeBase.toNat / dataRateHz.toNat) =
      now * dataRateHz.toNat / nanosPerSecond := ticks_div_interval admitted
  have hfifty := admitted.fifty_mul
  have hpos := admitted.interval_pos
  have hbase := admitted.fits
  simp only [alignedTimestamp]
  rw [admitted.toNat] at hticks hfifty hpos hfits ⊢
  generalize hinterval : timeBase.toNat / 50 = interval at hticks hfifty hpos ⊢
  have hsecond : now / nanosPerSecond ≤ u32Max := by
    have hback : now * 50 / nanosPerSecond / 50 = now / nanosPerSecond := by
      rw [Nat.div_div_eq_div_mul, Nat.mul_div_mul_right _ _ (by decide)]
    simp only [intervalsUntil, admitted.toNat] at hfits
    rw [← hback]
    exact (Nat.div_le_div_right (Nat.le_succ _)).trans hfits
  -- neither the product nor the sum of ticks reaches the end of its range
  have hseconds : now / nanosPerSecond * timeBase.toNat ≤ u32Max * 0x00ffffff :=
    Nat.mul_le_mul hsecond hbase
  have hrest : now % nanosPerSecond * timeBase.toNat / nanosPerSecond ≤ timeBase.toNat :=
    Nat.div_le_of_le_mul
      (Nat.mul_le_mul_right _ (Nat.mod_lt now (by decide : 0 < nanosPerSecond)).le)
  have htotal : (min (now / nanosPerSecond * timeBase.toNat) u64Max +
      now % nanosPerSecond * timeBase.toNat / nanosPerSecond) % 2 ^ 64 =
      now * timeBase.toNat / nanosPerSecond := by
    rw [Nat.min_eq_left (hseconds.trans (by decide)), wholeTicks, Nat.mod_eq_of_lt]
    rw [← wholeTicks]
    refine lt_of_le_of_lt (Nat.add_le_add hseconds (hrest.trans hbase)) (by decide)
  have hk : now * 50 / nanosPerSecond + 1 = intervalsUntil now dataRateHz := by
    rw [intervalsUntil, admitted.toNat]
  rw [htotal, hticks, hk]
  generalize intervalsUntil now dataRateHz = k at hfits ⊢
  have hk : k < (u32Max + 1) * 50 := (Nat.div_lt_iff_lt_mul (by decide)).mp
    (Nat.lt_succ_of_le hfits)
  have hwhole : k % 2 ^ 64 = k := Nat.mod_eq_of_lt (hk.trans (by decide))
  have hproduct : min (k * interval) u64Max = k * interval := by
    refine Nat.min_eq_left ?_
    refine (Nat.mul_le_mul hk.le (show interval ≤ 0x00ffffff by omega)).trans (by decide)
  have hdiv : k * interval / timeBase.toNat = k / 50 := by
    rw [← hfifty, Nat.mul_div_mul_right _ _ hpos]
  have hmod : k * interval % timeBase.toNat = k % 50 * interval := by
    rw [← hfifty, Nat.mul_mod_mul_right]
  have hlt : k % 50 * interval < 2 ^ 32 := by
    have hframe : k % 50 * interval ≤ 50 * interval :=
      Nat.mul_le_mul_right _ (Nat.mod_lt k (by decide)).le
    omega
  rw [hwhole, hproduct, hdiv, hmod, if_neg hpos.ne', if_neg (Nat.not_lt.mpr hfits)]
  refine ⟨_, rfl, ?_, truncateToU32_toNat hlt⟩
  rw [UInt32.toNat_ofNat']
  exact Nat.mod_eq_of_lt (Nat.lt_of_le_of_lt hfits (by decide))

/-- A boundary is a whole number of nanoseconds. -/
lemma delayUntilTimestamp_eq (admitted : AdmittedRate dataRateHz timeBase)
    {timestamp : Timestamp} {k : ℕ} (hsoc : timestamp.soc.toNat = k / dataRateHz.toNat)
    (hfracsec : timestamp.fracsec.toNat =
      k % dataRateHz.toNat * (timeBase.toNat / dataRateHz.toNat)) :
    delayUntilTimestamp now timestamp timeBase = min (k * 20000000 - now) u64Max := by
  have hfifty := admitted.fifty_mul
  have hpos := admitted.interval_pos
  simp only [delayUntilTimestamp]
  rw [hsoc, hfracsec]
  rw [admitted.toNat] at hfifty hpos ⊢
  generalize timeBase.toNat / 50 = interval at hfifty hpos ⊢
  have hticks : k / 50 * timeBase.toNat + k % 50 * interval = k * interval := by
    rw [← hfifty, ← Nat.mul_assoc, ← Nat.add_mul, Nat.div_add_mod']
  have hnanos : k * interval * nanosPerSecond = timeBase.toNat * (k * 20000000) := by
    rw [← hfifty, nanosPerSecond]
    ring
  have hone : (timeBase.toNat - 1) / timeBase.toNat = 0 := Nat.div_eq_of_lt (by omega)
  rw [hticks, hnanos, Nat.add_sub_assoc (by omega), Nat.mul_add_div (by omega), hone, Nat.add_zero]

/-- The boundary that follows a reading of the wall clock is at most one interval behind it. -/
lemma intervalsUntil_bounds (admitted : AdmittedRate dataRateHz timeBase) (now : ℕ) :
    now < intervalsUntil now dataRateHz * 20000000 ∧
      intervalsUntil now dataRateHz * 20000000 ≤ now + 20000000 := by
  simp only [intervalsUntil, admitted.toNat, nanosPerSecond]
  omega

/-- A timestamp given by its intervals, in seconds. -/
lemma seconds_eq (admitted : AdmittedRate dataRateHz timeBase) {timestamp : Timestamp} {k : ℕ}
    (hsoc : timestamp.soc.toNat = k / dataRateHz.toNat)
    (hfracsec : timestamp.fracsec.toNat =
      k % dataRateHz.toNat * (timeBase.toNat / dataRateHz.toNat)) :
    timestamp.seconds timeBase.toNat = (k : ℚ) / dataRateHz.toNat := by
  have hfifty := admitted.fifty_mul
  have hpos := admitted.interval_pos
  rw [Timestamp.seconds, hsoc, hfracsec]
  rw [admitted.toNat] at hfifty hpos ⊢
  generalize timeBase.toNat / 50 = interval at hfifty hpos ⊢
  have hne : (interval : ℚ) ≠ 0 := Nat.cast_ne_zero.mpr hpos.ne'
  have hsplit : (k : ℚ) = 50 * (k / 50 : ℕ) + (k % 50 : ℕ) := by
    exact_mod_cast (Nat.div_add_mod k 50).symm
  rw [← hfifty, hsplit]
  push_cast
  field_simp

/-- Sampling starts at the first boundary after the wall clock was read, and the wait for it is the
exact distance. -/
theorem alignedStart_isLeast (dataRateHz : UInt16) (timeBase : UInt32) (now : Duration)
    (admitted : AdmittedRate dataRateHz timeBase) :
    ∃ next : ℚ,
      IsLeast {t ∈ boundaries dataRateHz.toNat | (now : ℚ) / nanosPerSecond < t} next ∧
      (next < u32Max + 1 → ∃ timestamp,
        alignedTimestamp now dataRateHz timeBase = .ok timestamp ∧
        timestamp.seconds timeBase.toNat = next ∧
        timestamp.fracsec.toNat < timeBase.toNat ∧
        timeBase.toNat / dataRateHz.toNat ∣ timestamp.fracsec.toNat ∧
        (delayUntilTimestamp now timestamp timeBase : ℤ) =
          ⌈(next - now / nanosPerSecond) * nanosPerSecond⌉ ∧
        0 < delayUntilTimestamp now timestamp timeBase ∧
        (delayUntilTimestamp now timestamp timeBase : ℚ) ≤
          (nanosPerSecond : ℚ) / dataRateHz.toNat) := by
  have hrate : dataRateHz.toNat = 50 := admitted.toNat
  refine ⟨_, isLeast_boundary (hrate ▸ by decide) (by decide) now, fun hnext => ?_⟩
  change ((intervalsUntil now dataRateHz : ℕ) : ℚ) / dataRateHz.toNat < u32Max + 1 at hnext
  have hfits : intervalsUntil now dataRateHz / dataRateHz.toNat ≤ u32Max := by
    rw [div_lt_iff₀ (by rw [hrate]; norm_num)] at hnext
    refine Nat.le_of_lt_succ ((Nat.div_lt_iff_lt_mul (by omega)).mpr ?_)
    exact_mod_cast hnext
  obtain ⟨timestamp, hok, hsoc, hfracsec⟩ := alignedTimestamp_eq admitted hfits
  obtain ⟨hwithin, hboundary⟩ := WallClock.alignedTimestamp_boundary admitted hok
  obtain ⟨hafter, hbefore⟩ := intervalsUntil_bounds admitted now
  have hdelay : delayUntilTimestamp now timestamp timeBase =
      intervalsUntil now dataRateHz * 20000000 - now := by
    rw [delayUntilTimestamp_eq admitted hsoc hfracsec]
    refine Nat.min_eq_left ((Nat.sub_le_iff_le_add'.mpr hbefore).trans (by decide))
  refine ⟨timestamp, hok, seconds_eq admitted hsoc hfracsec, hwithin, hboundary, ?_, ?_, ?_⟩
  · -- the distance is a whole number of nanoseconds, so the ceiling adds nothing
    have hdistance : (((intervalsUntil now dataRateHz : ℕ) : ℚ) / dataRateHz.toNat -
        now / nanosPerSecond) * nanosPerSecond =
        ((intervalsUntil now dataRateHz * 20000000 - now : ℤ) : ℚ) := by
      rw [hrate, nanosPerSecond]
      push_cast
      ring
    rw [hdelay, Nat.cast_sub hafter.le]
    change _ = ⌈(((intervalsUntil now dataRateHz : ℕ) : ℚ) / dataRateHz.toNat -
      now / nanosPerSecond) * nanosPerSecond⌉
    rw [hdistance, Int.ceil_intCast]
    push_cast
    rfl
  · rw [hdelay]
    exact Nat.sub_pos_of_lt hafter
  · have hinterval : (nanosPerSecond : ℚ) / dataRateHz.toNat = ((20000000 : ℕ) : ℚ) := by
      rw [hrate, nanosPerSecond]
      norm_num
    rw [hdelay, hinterval, Nat.cast_le]
    exact Nat.sub_le_iff_le_add'.mpr hbefore

end Start

theorem alignedStart_isLeast_13ms :
    ∃ timestamp, alignedTimestamp 1700000000013000000 50 1000000 = .ok timestamp ∧
      timestamp.seconds 1000000 = 1700000000 + 1 / 50 ∧
      delayUntilTimestamp 1700000000013000000 timestamp 1000000 = 7000000 := by
  obtain ⟨next, hleast, hfits⟩ :=
    alignedStart_isLeast 50 1000000 1700000000013000000 admittedRate_50
  obtain rfl := hleast.unique (isLeast_boundary (by decide) (by decide) _)
  have hnext : (((1700000000013000000 * (50 : UInt16).toNat / nanosPerSecond + 1 : ℕ) : ℚ) /
      (50 : UInt16).toNat) = 1700000000 + 1 / 50 := by
    have hcount : 1700000000013000000 * (50 : UInt16).toNat / nanosPerSecond + 1 = 85000000001 := by
      decide
    rw [hcount, show (50 : UInt16).toNat = 50 from rfl]
    norm_num
  rw [hnext] at hfits
  obtain ⟨timestamp, hok, hseconds, -, -, hdelay, -⟩ := hfits (by norm_num [u32Max])
  refine ⟨timestamp, hok, hseconds, ?_⟩
  have hceil : ⌈((1700000000 + 1 / 50 : ℚ) - (1700000000013000000 : ℕ) / nanosPerSecond) *
      nanosPerSecond⌉ = 7000000 := by
    norm_num [nanosPerSecond]
  exact_mod_cast hdelay.trans hceil

end PmuSimulator
