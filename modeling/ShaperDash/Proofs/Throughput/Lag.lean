import ShaperDash.Proofs.Dashboard.Samples
import ShaperDash.Proofs.Pane.Sparkline
import ShaperDash.Proofs.Throughput.Rates

/-!
# The sparklines lag behind

A sparkline begins with the oldest sample of the history.  Where the history is longer than the
sparkline is wide, it is the newest samples that find no column: the sparkline shows what the newest
samples were some rates ago, and what was measured since then does not show until it has moved far
enough to the left.

* `ThroughputPane.cell_half` : each half of the pane is the sparkline of a direction.
* `take_rtake` : a window on the oldest elements of a bounded list.
* `ThroughputPane.newest_samples_unseen` : **as many of the newest samples as there are too few
  columns do not show.**
* `ThroughputPane.not_newest_samples_shown` : so the newest samples are not what is shown.
-/

namespace ShaperDash

/-! ### The sparkline of a direction -/

namespace Direction

/-- The samples of a direction, oldest first. -/
def samples : Direction → History → List UInt64
  | down, h => h.download
  | up, h => h.upload

/-- The look of the sparkline of a direction. -/
def style : Direction → SparklineStyle
  | down => Sparkline.download
  | up => Sparkline.upload

/-- The half of the pane that a direction has. -/
def half : Direction → Region → Region
  | down, r => r.upperHalf
  | up, r => r.lowerHalf

theorem samples_ofSamples (dir : Direction) (limit : Nat) (xs : List Traffic) :
    dir.samples (.ofSamples limit xs) = xs.map dir.rate := by
  cases dir <;> rfl

end Direction

namespace ThroughputPane

variable {d : Dashboard} {r : Region} {dir : Direction}

/-- Each half of the pane is the sparkline of a direction. -/
theorem cell_half {x y : Nat} (h : (dir.half r).Covers x y) :
    (draw d r).cell x y =
      (Sparkline.draw dir.style (dir.samples d.history) (dir.rate d.rates) (dir.half r)).cell
        x y := by
  cases dir with
  | down => exact (Sparkline.draw_local ..).cell_upperHalf (f := Sparkline.draw _ _ _) h
  | up => exact (Sparkline.draw_local ..).cell_lowerHalf (g := Sparkline.draw _ _ _) h

/-- Each direction shows its oldest samples, as many as there are columns. -/
theorem draw_shows (d : Dashboard) (r : Region) (dir : Direction) :
    Sparkline.Shows (draw d r) dir.style.bar (dir.half r).inner
      (Sparkline.peak (dir.samples d.history))
      ((dir.samples d.history).take (dir.half r).inner.width) := by
  intro i hi k hk
  have hinside : (dir.half r).Covers ((dir.half r).inner.x + i)
      ((dir.half r).inner.y + ((dir.half r).inner.height - 1 - k)) := by
    refine Region.inner_inside _ _ ?_
    simp only [Region.Covers]
    omega
  rw [cell_half hinside]
  exact Sparkline.draw_shows _ _ _ _ i hi k hk

end ThroughputPane

/-! ### Windows on a bounded list -/

section

variable {α : Type} {xs : List α} {n w : Nat}

theorem take_eq_rdrop (xs : List α) (w : Nat) : xs.take w = xs.rdrop (xs.length - w) := by
  rw [List.rdrop, List.take_eq_take_iff]
  omega

/-- The oldest of the elements that are kept are the newest of those that there were when the ones
that find no place in the window had not come yet. -/
theorem take_rtake (hw : w ≤ n) (hn : n ≤ xs.length) :
    (xs.rtake n).take w = (xs.rdrop (n - w)).rtake w := by
  have hkept : xs.length - (n - w) = xs.length - n + w := by omega
  have hlength : (xs.rdrop (n - w)).length = xs.length - n + w := by
    rw [List.rdrop, List.length_take]
    omega
  rw [List.rtake, List.rtake, hlength, List.rdrop, hkept, Nat.add_sub_cancel, List.drop_take,
    Nat.add_sub_cancel_left]

end

/-! ### Runs -/

namespace Dashboard

/-- The zeros of the start and the rates between neighbouring readings behind them: all that a run
brings into the history. -/
def brought (c : Config) (steps : List Step) : List Traffic :=
  List.replicate c.historyLength.toNat ⟨0, 0⟩ ++
    List.zipWith bitsPerSecond (readings steps) (readings steps).tail

theorem history_run (c : Config) (steps : List Step) :
    ((start c).run steps).history =
      .ofSamples c.historyLength.toNat ((brought c steps).rtake c.historyLength.toNat) := by
  have hflow := run_flow (d := start c) steps
  rw [Flow.foldl_take] at hflow
  have hhistory : ((start c).run steps).history =
      (ratesAfter none (readings steps)).foldl History.push
        (History.ofLimit c.historyLength.toNat) := congrArg Flow.history hflow
  rw [hhistory, ratesAfter_none, History.ofLimit_eq, History.foldl_push (by simp), brought]

end Dashboard

namespace ThroughputPane

/-- **The newest samples do not show where there are too few columns.**  In each half of the pane

* the columns show, from the left, all samples but the newest ones, of which as many are left out as
  there are too few columns;
* so the newest samples are what is shown if the whole history has columns;
* otherwise nothing of the newest ones shows but by the greatest rate: dashboards whose histories
  agree in it and in the samples that have columns show the same;
* after any run with a history that is no shorter than the sparkline is wide, the columns show what
  the newest samples were when the last ones, as many as have no column, had not come yet. -/
theorem newest_samples_unseen (d : Dashboard) (r : Region) (dir : Direction) :
    let samples := dir.samples d.history
    let inside := (dir.half r).inner
    let shows := Sparkline.Shows (draw d r) dir.style.bar inside (Sparkline.peak samples)
    shows (samples.rdrop (samples.length - inside.width)) ∧
    (samples.length ≤ inside.width → shows (samples.rtake inside.width)) ∧
    (∀ d' : Dashboard, Sparkline.peak (dir.samples d'.history) = Sparkline.peak samples →
      (dir.samples d'.history).take inside.width = samples.take inside.width →
        ∀ x y, inside.Covers x y → (draw d' r).cell x y = (draw d r).cell x y) ∧
    ∀ (c : Config) (steps : List Dashboard.Step), d = (Dashboard.start c).run steps →
      let room := c.historyLength.toNat
      inside.width ≤ room →
        shows ((((Dashboard.brought c steps).map dir.rate).rdrop
          (room - inside.width)).rtake inside.width) := by
  intro samples inside shows
  have hshown : shows (samples.take inside.width) := draw_shows d r dir
  refine ⟨?_, fun hfits => ?_, fun d' hpeak htake x y hcovers => ?_, ?_⟩
  · rwa [← take_eq_rdrop]
  · rwa [History.rtake_of_length_le hfits, ← List.take_of_length_le hfits]
  · obtain ⟨⟨hx, hx'⟩, hy, hy'⟩ := hcovers
    have hshown' := draw_shows d' r dir
    rw [hpeak, htake] at hshown'
    -- the cell, by its column from the left and its row from below
    obtain ⟨i, rfl⟩ := Nat.exists_eq_add_of_le hx
    obtain ⟨k, hk, rfl⟩ : ∃ k < inside.height, y = inside.y + (inside.height - 1 - k) :=
      ⟨inside.height - 1 - (y - inside.y), by omega, by omega⟩
    have hi : i < inside.width := Nat.lt_of_add_lt_add_left hx'
    rw [hshown' i hi k hk, hshown i hi k hk]
  · rintro c steps rfl room hroom
    have hsamples : samples = ((Dashboard.brought c steps).map dir.rate).rtake room := by
      simp only [samples]
      rw [Dashboard.history_run, Direction.samples_ofSamples, List.rtake, List.rtake,
        List.length_map, List.map_drop]
    have hlength : room ≤ ((Dashboard.brought c steps).map dir.rate).length := by
      rw [List.length_map, Dashboard.brought, List.length_append, List.length_replicate]
      exact Nat.le_add_right ..
    rwa [hsamples, take_rtake hroom hlength] at hshown

/-- Room for three samples and two columns: the rates 8 and 64 show, the 16 behind them does not,
and no more would a 32 in its place.  A third column shows it. -/
theorem newest_samples_unseen_of_three :
    let c : Config := { Config.default with historyLength := 3 }
    let steps (last : UInt64) : List Dashboard.Step :=
      [Dashboard.readingStep 0 0 "eth0" 0, Dashboard.readingStep 1 0 "eth0" 1000000000,
        Dashboard.readingStep 9 0 "eth0" 2000000000, Dashboard.readingStep last 0 "eth0" 3000000000]
    let d := (Dashboard.start c).run (steps 11)
    let d' := (Dashboard.start c).run (steps 13)
    let r : Region := ⟨0, 0, 4, 6⟩
    let wide : Region := ⟨0, 0, 5, 6⟩
    let shows (r : Region) := Sparkline.Shows (draw d r) Sparkline.download.bar r.upperHalf.inner
      (Sparkline.peak [8, 64, 16])
    (d.history.download = [8, 64, 16] ∧ d'.history.download = [8, 64, 32]) ∧
    shows r ([8, 64, 16].rdrop 1) ∧
    shows wide ([8, 64, 16].rtake 3) ∧
    (draw d' r).cell 2 1 = (draw d r).cell 2 1 ∧
    shows r (([0, 0, 0, 8, 64, 16].rdrop 1).rtake 2) := by
  intro c steps d d' r wide shows
  have hd : d.history.download = [8, 64, 16] := by decide +kernel
  have hd' : d'.history.download = [8, 64, 32] := by decide +kernel
  have hbrought : (Dashboard.brought c (steps 11)).map Direction.down.rate =
      [0, 0, 0, 8, 64, 16] := by decide +kernel
  obtain ⟨hunseen, -, halike, hlag⟩ := newest_samples_unseen d r .down
  obtain ⟨-, hfits, -⟩ := newest_samples_unseen d wide .down
  have hlag := hlag c (steps 11) rfl (by decide)
  rw [hbrought] at hlag
  simp only [Direction.samples, hd] at hunseen hfits halike hlag
  refine ⟨⟨hd, hd'⟩, hunseen, hfits (by decide), halike d' ?_ ?_ 2 1 (by decide), hlag⟩
  · rw [hd']
    decide
  · rw [hd']
    rfl

/-- The newest samples are not what is shown: with two columns for the history above, the 16 would
be in the last one. -/
theorem not_newest_samples_shown : ¬ ∀ (d : Dashboard) (r : Region) (dir : Direction),
    let samples := dir.samples d.history
    let inside := (dir.half r).inner
    samples ≠ [] → 1 ≤ inside.width → 1 ≤ inside.height →
      Sparkline.Shows (draw d r) dir.style.bar inside (Sparkline.peak samples)
        (samples.rtake inside.width) := by
  intro h
  let d := (Dashboard.start { Config.default with historyLength := 3 }).run
    [Dashboard.readingStep 0 0 "eth0" 0, Dashboard.readingStep 1 0 "eth0" 1000000000,
      Dashboard.readingStep 9 0 "eth0" 2000000000, Dashboard.readingStep 11 0 "eth0" 3000000000]
  have hd : d.history.download = [8, 64, 16] := by decide +kernel
  have hsome : Direction.down.samples d.history ≠ [] := by
    rw [Direction.samples, hd]
    decide
  have hlast := h d ⟨0, 0, 4, 6⟩ .down hsome (by decide) (by decide) 1 (by decide) 0 (by decide)
  simp only [Direction.samples, hd] at hlast
  have hcell : (draw d ⟨0, 0, 4, 6⟩).cell 2 1 =
      Sparkline.barCell Sparkline.download.bar 0 (some 8) := by decide +kernel
  exact absurd (hcell.symm.trans hlast) (by decide +kernel)

end ThroughputPane

end ShaperDash
