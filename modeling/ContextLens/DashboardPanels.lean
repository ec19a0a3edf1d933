import ContextLens.DashboardAnalytics
import ContextLens.Foundations.Binary64

/-!
# The panels of the dashboard

`src/benchmark/dashboardAnalyticsFormat.ts`: the stacked bar of a day and the bars of a latency
phase.  Both clamp what they draw.  On the figures that the server computes no clamp cuts
anything: completed and failed runs of a day are different runs of the day, and the median, the
95th percentile and the maximum of a phase are in this order.

The widths are computed in doubles.  A quotient and a product keep the order of what is drawn
and the two ends of the scale, but shares that add up to the whole are drawn to widths that do
so only up to the last bits.
-/

namespace ContextLens

open Foundations

/-! ## The bars -/

/-- `TimeSeriesStackSegment['key']`. -/
inductive StackKey
  | completed
  | failed
  | other
  deriving DecidableEq, Repr

/-- `TimeSeriesStackSegment`. -/
structure TimeSeriesStackSegment where
  key : StackKey
  count : ℤ
  pctOfRuns : ℚ

/-- `(part / whole) * 100`. -/
def percentOf (part whole : ℚ) : ℚ := Binary64.mul (Binary64.div part whole) 100

/-- `timeSeriesDayStack`. -/
def timeSeriesDayStack (day : TimeSeriesDay) : List TimeSeriesStackSegment :=
  let runs : ℤ := day.runs
  if runs ≤ 0 then []
  else
    let completedSeg := min (max 0 (day.completed : ℤ)) runs
    let failedSeg := min (max 0 (day.failed : ℤ)) (runs - completedSeg)
    let other := runs - completedSeg - failedSeg
    [ { key := .completed, count := completedSeg, pctOfRuns := percentOf completedSeg runs },
      { key := .failed, count := failedSeg, pctOfRuns := percentOf failedSeg runs },
      { key := .other, count := other, pctOfRuns := percentOf other runs } ]

/-- `latencyPhaseScaleMs`. -/
def latencyPhaseScaleMs (dist : LatencyDistribution) : ℚ :=
  let vals := [dist.medianMs, dist.p95Ms, dist.maxMs].reduceOption.filter fun v => 0 ≤ v
  if 0 < vals.length then vals.foldr max 1 else 1

/-- `barWidthPct`. -/
def barWidthPct (value : Option ℚ) (scaleMax : ℚ) : ℚ :=
  match value with
  | none => 0
  | some v => if v < 0 ∨ scaleMax ≤ 0 then 0 else min 100 (percentOf v scaleMax)

/-- A distribution as the page receives it: its figures are doubles. -/
def LatencyDistribution.received [Sql.DoubleAggregates] (dist : LatencyDistribution) :
    LatencyDistribution where
  count := dist.count
  minMs := dist.minMs.map Sql.DoubleAggregates.toDouble
  maxMs := dist.maxMs.map Sql.DoubleAggregates.toDouble
  avgMs := dist.avgMs.map Sql.DoubleAggregates.toDouble
  medianMs := dist.medianMs.map Sql.DoubleAggregates.toDouble
  p95Ms := dist.p95Ms.map Sql.DoubleAggregates.toDouble

/-! ## Percentages -/

section

variable {part other whole : ℚ}

theorem percentOf_mono (hwhole : 0 < whole) (h : part ≤ other) :
    percentOf part whole ≤ percentOf other whole :=
  Binary64.nearest_mono (mul_le_mul_of_nonneg_right
    (Binary64.nearest_mono (div_le_div_of_nonneg_right h hwhole.le)) (by norm_num))

theorem percentOf_zero (whole : ℚ) : percentOf 0 whole = 0 := by
  rw [percentOf, Binary64.div, zero_div, Binary64.nearest_zero, Binary64.mul, zero_mul,
    Binary64.nearest_zero]

theorem percentOf_self (hwhole : 0 < whole) : percentOf whole whole = 100 := by
  have hone : Binary64.nearest 1 = 1 := by decide +kernel
  have hhundred : Binary64.nearest 100 = 100 := by decide +kernel
  rw [percentOf, Binary64.div, div_self hwhole.ne', hone, Binary64.mul, one_mul, hhundred]

theorem percentOf_nonneg (hwhole : 0 < whole) (hpart : 0 ≤ part) : 0 ≤ percentOf part whole :=
  percentOf_zero whole ▸ percentOf_mono hwhole hpart

theorem percentOf_le (hwhole : 0 < whole) (hpart : part ≤ whole) : percentOf part whole ≤ 100 :=
  percentOf_self hwhole ▸ percentOf_mono hwhole hpart

/-- A percentage is the exact one up to two roundings. -/
theorem abs_percentOf_sub_le (hwhole : 0 < whole) (hpart : 0 ≤ part) :
    |percentOf part whole - part / whole * 100| ≤ part / whole * 100 / 2 ^ 51 := by
  have hshare : 0 ≤ part / whole := div_nonneg hpart hwhole.le
  have hproduct : 0 ≤ Binary64.nearest (part / whole) * 100 :=
    mul_nonneg (Binary64.nearest_nonneg hshare) (by norm_num)
  have hlow := Binary64.le_nearest hshare
  have hhigh := Binary64.nearest_le hshare
  have hlow' := Binary64.le_nearest hproduct
  have hhigh' := Binary64.nearest_le hproduct
  rw [percentOf, Binary64.mul, Binary64.div, abs_le]
  constructor <;> linarith

end

/-! ## The order of a distribution -/

section

variable {db : Database} {datasetId : Option ℕ} {column : Run → Option ℕ}

/-- The values of a column in the scope, `NULL`s left out. -/
def phaseValues (db : Database) (datasetId : Option ℕ) (column : Run → Option ℕ) : List ℚ :=
  ((db.scopedRuns datasetId).map fun r => (column r.run).map fun n : ℕ => (n : ℚ)).reduceOption

theorem nonneg_of_mem_phaseValues {v : ℚ} (h : v ∈ phaseValues db datasetId column) : 0 ≤ v := by
  obtain ⟨r, -, hv⟩ := List.mem_map.mp (List.reduceOption_mem_iff.mp h)
  obtain ⟨n, -, hn⟩ := Option.map_eq_some_iff.mp hv
  rw [← hn]
  exact Nat.cast_nonneg n

/-- The figures of a phase that has values, in their order. -/
structure PhaseFigures (values : List ℚ) where
  low : ℚ
  median : ℚ
  p95 : ℚ
  high : ℚ
  mean : ℚ
  low_mem : low ∈ values
  high_mem : high ∈ values
  low_le_median : low ≤ median
  median_le_p95 : median ≤ p95
  p95_le_high : p95 ≤ high
  low_le_mean : low ≤ mean
  mean_le_high : mean ≤ high

/-- The distribution with these figures. -/
def PhaseFigures.distribution {values : List ℚ} (figures : PhaseFigures values) :
    LatencyDistribution where
  count := values.length
  minMs := some figures.low
  maxMs := some figures.high
  avgMs := some figures.mean
  medianMs := some figures.median
  p95Ms := some figures.p95

/-- **The figures of a phase are in their order.** -/
theorem exists_phaseFigures (h : phaseValues db datasetId column ≠ []) :
    ∃ figures : PhaseFigures (phaseValues db datasetId column),
      db.getPhaseLatencyDistribution datasetId column = figures.distribution := by
  unfold phaseValues at h ⊢
  unfold Database.getPhaseLatencyDistribution
  generalize (db.scopedRuns datasetId).map
    (fun r => (column r.run).map fun n : ℕ => (n : ℚ)) = values at h ⊢
  have hcount : (values.filter Option.isSome).length = values.reduceOption.length :=
    List.reduceOption_length_eq.symm
  have hne : values.reduceOption.length ≠ 0 := fun h0 => h (List.length_eq_zero_iff.mp h0)
  obtain ⟨low, hlow⟩ : ∃ low, values.reduceOption.min? = some low :=
    Option.isSome_iff_exists.mp (by simpa using h)
  obtain ⟨high, hhigh⟩ : ∃ high, values.reduceOption.max? = some high :=
    Option.isSome_iff_exists.mp (by simpa using h)
  obtain ⟨hlowMem, hlowLe⟩ := List.min?_eq_some_iff.mp hlow
  obtain ⟨hhighMem, hhighLe⟩ := List.max?_eq_some_iff.mp hhigh
  have hmedian := @Sql.percentileCont_eq values (1 / 2) h (by norm_num)
  have hp95 := @Sql.percentileCont_eq values (95 / 100) h (by norm_num)
  have hmean := Sql.avg_eq values
  rw [if_neg h] at hmean
  have hmedianBounds := Sql.percentileCont_mem_bounds (by norm_num) hmedian hlowLe hhighLe
  have hp95Bounds := Sql.percentileCont_mem_bounds (by norm_num) hp95 hlowLe hhighLe
  refine ⟨{
    low := low
    median := _
    p95 := _
    high := high
    mean := _
    low_mem := hlowMem
    high_mem := hhighMem
    low_le_median := hmedianBounds.1
    median_le_p95 := Sql.percentileCont_mono (by norm_num) (by norm_num) hmedian hp95
    p95_le_high := hp95Bounds.2
    low_le_mean := Sql.le_avg hmean hlowLe
    mean_le_high := Sql.avg_le hmean hhighLe }, ?_⟩
  simp only [hcount, if_neg hne, PhaseFigures.distribution, Sql.minimum, Sql.maximum, hlow, hhigh,
    hmedian, hp95, hmean]

/-- A phase without values has the empty distribution. -/
theorem getPhaseLatencyDistribution_of_nil (h : phaseValues db datasetId column = []) :
    db.getPhaseLatencyDistribution datasetId column = {} := by
  have hcount := @List.reduceOption_length_eq _
    ((db.scopedRuns datasetId).map fun r => (column r.run).map fun n : ℕ => (n : ℚ))
  rw [← phaseValues, h, List.length_nil] at hcount
  rw [Database.getPhaseLatencyDistribution, if_pos hcount.symm]

/-! ## What the panels draw -/

/-- A bar that no clamp cuts. -/
theorem barWidthPct_eq {v scale : ℚ} (hv : 0 ≤ v) (hle : v ≤ scale) (hscale : 0 < scale) :
    barWidthPct (some v) scale = percentOf v scale := by
  rw [barWidthPct, if_neg (by push Not; exact ⟨hv, hscale⟩)]
  exact min_eq_right (percentOf_le hscale hle)

/-- The scale of figures that are in their order is the greatest. -/
theorem latencyPhaseScaleMs_eq {dist : LatencyDistribution} {median p95 high : ℚ}
    (hmedianMs : dist.medianMs = some median) (hp95Ms : dist.p95Ms = some p95)
    (hmaxMs : dist.maxMs = some high) (hmedian : 0 ≤ median) (hp95 : median ≤ p95)
    (hhigh : p95 ≤ high) : latencyPhaseScaleMs dist = max high 1 := by
  have hvals : ([some median, some p95, some high].reduceOption.filter fun v => 0 ≤ v) =
      [median, p95, high] := by
    simp [List.reduceOption, hmedian, hmedian.trans hp95, (hmedian.trans hp95).trans hhigh]
  rw [latencyPhaseScaleMs, hmedianMs, hp95Ms, hmaxMs]
  simp only [hvals, List.length_cons, List.length_nil, Nat.zero_add, Nat.reduceAdd,
    Nat.ofNat_pos, if_true, List.foldr_cons, List.foldr_nil]
  have hrest : p95 ≤ max high 1 := le_max_of_le_left hhigh
  rw [max_eq_right hrest, max_eq_right (hp95.trans hrest)]

/-- A stack is drawn as the runs of its day: the counts add up to the runs, each is drawn to
its percentage, more runs no narrower than fewer, and the widths fill the bar up to the last
bits. -/
structure StackFits (day : TimeSeriesDay) (stack : List TimeSeriesStackSegment) : Prop where
  counts : stack.map TimeSeriesStackSegment.count =
    [(day.completed : ℤ), (day.failed : ℤ), (day.runs - day.completed - day.failed : ℤ)]
  total : (stack.map TimeSeriesStackSegment.count).sum = day.runs
  share : ∀ segment ∈ stack, segment.pctOfRuns = percentOf segment.count day.runs
  bounds : ∀ segment ∈ stack, 0 ≤ segment.pctOfRuns ∧ segment.pctOfRuns ≤ 100
  order : ∀ segment ∈ stack, ∀ segment' ∈ stack, segment.count ≤ segment'.count →
    segment.pctOfRuns ≤ segment'.pctOfRuns
  fills : |(stack.map TimeSeriesStackSegment.pctOfRuns).sum - 100| ≤ 1 / 10 ^ 12

/-- **The stack of a day** has the completed and the failed runs and the rest. -/
theorem timeSeriesDayStack_fits {day : TimeSeriesDay} (hpos : 0 < day.runs)
    (hcounts : day.completed + day.failed ≤ day.runs) :
    StackFits day (timeSeriesDayStack day) := by
  have hcompleted : min (max 0 (day.completed : ℤ)) day.runs = day.completed := by omega
  have hfailed : min (max 0 (day.failed : ℤ)) ((day.runs : ℤ) - day.completed) = day.failed := by
    omega
  have hruns : ¬(day.runs : ℤ) ≤ 0 := by omega
  have hwhole : (0 : ℚ) < (day.runs : ℤ) := by exact_mod_cast hpos
  have hstack : timeSeriesDayStack day =
      [{ key := .completed, count := day.completed,
         pctOfRuns := percentOf (day.completed : ℤ) (day.runs : ℤ) },
        { key := .failed, count := day.failed,
          pctOfRuns := percentOf (day.failed : ℤ) (day.runs : ℤ) },
        { key := .other, count := day.runs - day.completed - day.failed,
          pctOfRuns := percentOf (day.runs - day.completed - day.failed : ℤ) (day.runs : ℤ) }] := by
    rw [timeSeriesDayStack]
    simp only [if_neg hruns, hcompleted, hfailed]
  have hshare : ∀ segment ∈ timeSeriesDayStack day,
      segment.pctOfRuns = percentOf segment.count day.runs := by
    rw [hstack]
    intro segment hsegment
    simp only [List.mem_cons, List.not_mem_nil, or_false] at hsegment
    rcases hsegment with rfl | rfl | rfl <;> simp
  have hrange : ∀ segment ∈ timeSeriesDayStack day,
      0 ≤ segment.count ∧ segment.count ≤ day.runs := by
    rw [hstack]
    intro segment hsegment
    simp only [List.mem_cons, List.not_mem_nil, or_false] at hsegment
    rcases hsegment with rfl | rfl | rfl <;> dsimp only <;> omega
  refine ⟨by rw [hstack]; rfl, ?_, hshare, ?_, ?_, ?_⟩
  · rw [hstack]
    simp only [List.map_cons, List.map_nil, List.sum_cons, List.sum_nil]
    omega
  · intro segment hsegment
    obtain ⟨hlow, hhigh⟩ := hrange segment hsegment
    rw [hshare segment hsegment]
    exact ⟨percentOf_nonneg hwhole (by exact_mod_cast hlow),
      percentOf_le hwhole (by exact_mod_cast hhigh)⟩
  · intro segment hsegment segment' hsegment' hle
    rw [hshare segment hsegment, hshare segment' hsegment']
    exact percentOf_mono hwhole (by exact_mod_cast hle)
  · have hnear : ∀ n : ℤ, 0 ≤ n → |percentOf n (day.runs : ℤ) - n / (day.runs : ℤ) * 100| ≤
        n / (day.runs : ℤ) * 100 / 2 ^ 51 := fun n hn =>
      abs_percentOf_sub_le hwhole (by exact_mod_cast hn)
    have hfirst := abs_le.mp (hnear day.completed (by omega))
    have hsecond := abs_le.mp (hnear day.failed (by omega))
    have hthird := abs_le.mp (hnear (day.runs - day.completed - day.failed) (by omega))
    -- The exact shares add up to the whole.
    have htotal : ((day.completed : ℤ) : ℚ) / (day.runs : ℤ) + ((day.failed : ℤ) : ℚ) /
        (day.runs : ℤ) + ((day.runs - day.completed - day.failed : ℤ) : ℚ) / (day.runs : ℤ) =
          1 := by
      rw [← add_div, ← add_div, div_eq_one_iff_eq hwhole.ne']
      push_cast
      ring
    rw [hstack]
    simp only [List.map_cons, List.map_nil, List.sum_cons, List.sum_nil]
    rw [abs_le]
    constructor <;> linarith

end

section

variable [Sql.DoubleAggregates]

/-- The bars of a latency phase fit: they are drawn to their percentages of the scale, in the
order of the figures. -/
structure BarsFit (values : List ℚ) (dist : LatencyDistribution) : Prop where
  figures : ∃ figures : PhaseFigures values, dist = figures.distribution.received
  scale : ∀ high, dist.maxMs = some high → latencyPhaseScaleMs dist = max high 1
  drawn : ∀ figure ∈ [dist.medianMs, dist.p95Ms, dist.maxMs], ∃ v, figure = some v ∧
    barWidthPct figure (latencyPhaseScaleMs dist) = percentOf v (latencyPhaseScaleMs dist)
  median_le_p95 : barWidthPct dist.medianMs (latencyPhaseScaleMs dist) ≤
    barWidthPct dist.p95Ms (latencyPhaseScaleMs dist)
  p95_le_max : barWidthPct dist.p95Ms (latencyPhaseScaleMs dist) ≤
    barWidthPct dist.maxMs (latencyPhaseScaleMs dist)
  max_le : barWidthPct dist.maxMs (latencyPhaseScaleMs dist) ≤ 100

theorem PhaseFigures.barsFit {values : List ℚ} (figures : PhaseFigures values)
    (hnonneg : ∀ v ∈ values, 0 ≤ v) : BarsFit values figures.distribution.received := by
  have hmedian : 0 ≤ Sql.DoubleAggregates.toDouble figures.median :=
    Sql.DoubleAggregates.toDouble_nonneg
      ((hnonneg _ figures.low_mem).trans figures.low_le_median)
  have hp95 := Sql.DoubleAggregates.toDouble_mono _ _ figures.median_le_p95
  have hhigh := Sql.DoubleAggregates.toDouble_mono _ _ figures.p95_le_high
  have hscale : latencyPhaseScaleMs figures.distribution.received =
      max (Sql.DoubleAggregates.toDouble figures.high) 1 :=
    latencyPhaseScaleMs_eq rfl rfl rfl hmedian hp95 hhigh
  have hpos : 0 < latencyPhaseScaleMs figures.distribution.received :=
    hscale ▸ lt_max_of_lt_right one_pos
  have hfits : Sql.DoubleAggregates.toDouble figures.high ≤
      latencyPhaseScaleMs figures.distribution.received := hscale ▸ le_max_left _ _
  have hmedianBar := barWidthPct_eq hmedian ((hp95.trans hhigh).trans hfits) hpos
  have hp95Bar := barWidthPct_eq (hmedian.trans hp95) (hhigh.trans hfits) hpos
  have hmaxBar := barWidthPct_eq ((hmedian.trans hp95).trans hhigh) hfits hpos
  refine ⟨⟨figures, rfl⟩, ?_, ?_, ?_, ?_, ?_⟩
  · rintro high hmax
    rw [← Option.some.inj hmax]
    exact hscale
  · intro figure hfigure
    simp only [List.mem_cons, List.not_mem_nil, or_false] at hfigure
    rcases hfigure with rfl | rfl | rfl
    · exact ⟨_, rfl, hmedianBar⟩
    · exact ⟨_, rfl, hp95Bar⟩
    · exact ⟨_, rfl, hmaxBar⟩
  · exact hmedianBar.trans_le ((percentOf_mono hpos hp95).trans_eq hp95Bar.symm)
  · exact hp95Bar.trans_le ((percentOf_mono hpos hhigh).trans_eq hmaxBar.symm)
  · exact hmaxBar.trans_le (percentOf_le hpos hfits)

/-- **The bars of the dashboard fit.**  On each day of the series the stack has the completed,
the failed and the other runs of the day and fills the bar.  In each latency phase the least,
middle, 95th and greatest latency come in this order with the mean between the extremes, and
their bars are drawn to the scale of the greatest; none of them is cut off. -/
theorem dashboard_bars_fit (db : Database) (datasetId : Option ℕ) (date : ℕ → ℕ)
    (column : Run → Option ℕ) :
    let values := phaseValues db datasetId column
    let dist := (db.getPhaseLatencyDistribution datasetId column).received
    (∀ day ∈ db.timeSeries datasetId date, StackFits day (timeSeriesDayStack day)) ∧
      (values = [] → dist = {} ∧ barWidthPct dist.maxMs (latencyPhaseScaleMs dist) = 0) ∧
      (values ≠ [] → BarsFit values dist) := by
  intro values dist
  refine ⟨fun day hday => ?_, fun hnil => ?_, fun hne => ?_⟩
  · exact timeSeriesDayStack_fits (runs_pos_of_mem_timeSeries hday)
      (shows_of_mem_timeSeries hday).counts
  · have hdist : dist = {} := congrArg LatencyDistribution.received
      (getPhaseLatencyDistribution_of_nil hnil)
    exact ⟨hdist, by rw [hdist]; rfl⟩
  · obtain ⟨figures, hdist⟩ := exists_phaseFigures hne
    have hdist : dist = figures.distribution.received :=
      congrArg LatencyDistribution.received hdist
    rw [hdist]
    exact figures.barsFit fun v hv => nonneg_of_mem_phaseValues hv

end

end ContextLens
