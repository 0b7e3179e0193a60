import ShaperDash.Proofs.Dashboard.Polls
import ShaperDash.Proofs.Throughput.History

/-!
# The throughput over a whole run

An update compares the byte counters with those of the update before it.  The readings of a run are
a list that is told without the dashboard, and so are the rates between neighbours in it: the
dashboard pushes these rates, all of them and nothing else, into its history.

* `Dashboard.step_flow` : a step takes in the reading that it brings, and does nothing else to the
  throughput.
* `Flow.foldl_take` : what is left of many readings.
* `Dashboard.history_of_readings` : **the history is told by the readings**, and so are the rates
  and the interface that are shown.
-/

namespace ShaperDash

/-! ### Rates between neighbours -/

/-- The rates between neighbours among some readings that come after `last`. -/
def ratesAfter : Option Reading → List Reading → List Traffic
  | _, [] => []
  | none, r :: rs => ratesAfter (some r) rs
  | some last, r :: rs => bitsPerSecond last r :: ratesAfter (some r) rs

theorem ratesAfter_cons (last : Option Reading) (r : Reading) (rs : List Reading) :
    ratesAfter last (r :: rs) = ratesAfter last [r] ++ ratesAfter (some r) rs := by
  cases last <;> rfl

theorem ratesAfter_some (r : Reading) (rs : List Reading) :
    ratesAfter (some r) rs = List.zipWith bitsPerSecond (r :: rs) rs := by
  induction rs generalizing r with
  | nil => rfl
  | cons r' rs ih => rw [ratesAfter, ih, List.zipWith_cons_cons]

theorem ratesAfter_none (rs : List Reading) :
    ratesAfter none rs = List.zipWith bitsPerSecond rs rs.tail := by
  cases rs with
  | nil => rfl
  | cons r rs => exact ratesAfter_some r rs

/-! ### The part of the dashboard that readings reach -/

/-- What a dashboard shows and knows of the throughput. -/
structure Flow where
  history : History
  rates : Traffic
  interfaceName : String
  lastReading : Option Reading

namespace Flow

/-- What is left of a reading: a rate since the one before, if there was one. -/
def take (f : Flow) (r : Reading) : Flow where
  history := (ratesAfter f.lastReading [r]).foldl History.push f.history
  rates := (ratesAfter f.lastReading [r]).getLast?.getD f.rates
  interfaceName := r.busiest
  lastReading := some r

/-- What is left of many readings: a rate for each two neighbours, and the name of the last one. -/
theorem foldl_take (f : Flow) (rs : List Reading) :
    rs.foldl take f =
      { history := (ratesAfter f.lastReading rs).foldl History.push f.history
        rates := (ratesAfter f.lastReading rs).getLast?.getD f.rates
        interfaceName := (rs.getLast?.map (·.busiest)).getD f.interfaceName
        lastReading := rs.getLast?.or f.lastReading } := by
  induction rs generalizing f with
  | nil => rfl
  | cons r rs ih =>
    rw [List.foldl_cons, ih, ratesAfter_cons]
    simp only [take, List.foldl_append, List.getLast?_append, List.getLast?_cons, Flow.mk.injEq,
      true_and]
    refine ⟨?_, ?_, ?_⟩
    · cases (ratesAfter (some r) rs).getLast? <;> rfl
    · cases rs.getLast? <;> rfl
    · cases rs.getLast? <;> rfl

end Flow

namespace Dashboard

/-- The reading that a step brings, if it brings one. -/
def Step.reading? : Step → Option Reading
  | .key _ => none
  | .toggle => none
  | .update s => some s.reading
  | .poll _ _ => none

/-- The readings of a run. -/
def readings (steps : List Step) : List Reading := steps.filterMap Step.reading?

/-- The throughput of a dashboard. -/
def flow (d : Dashboard) : Flow := ⟨d.history, d.rates, d.interfaceName, d.lastReading⟩

variable {d : Dashboard}

/-! ### One step -/

theorem flow_observe (r : Reading) : (d.observe r).1.flow = d.flow.take r := by
  unfold observe
  cases h : d.lastReading with
  | none => simp [flow, Flow.take, ratesAfter, h]
  | some last => simp [flow, Flow.take, ratesAfter, h]

theorem flow_pollStatus (files : FileTree) (now : Nat) :
    (d.pollStatus files now).1.flow = d.flow := by
  unfold pollStatus
  cases hp : d.poller with
  | none => rfl
  | some p =>
    cases hdue : p.due now with
    | false => simp [hdue]
    | true =>
      simp only [hdue, Poller.poll, Bool.not_true, Bool.false_eq_true, if_false]
      cases files.readStatus p.path <;> rfl

theorem flow_press (k : Key) : (d.press k).1.flow = d.flow := by
  unfold press
  split <;> rfl

theorem step_flow (st : Step) :
    (d.step st).dashboard.flow =
      match st.reading? with
      | none => d.flow
      | some r => d.flow.take r := by
  cases st with
  | key k =>
    simp only [step, Step.reading?]
    split
    · rfl
    · exact flow_press k
  | toggle => rfl
  | update s =>
    have hmeasured : ((d.observe s.reading).1.measure s.sample).flow = d.flow.take s.reading :=
      flow_observe s.reading
    exact (flow_pollStatus s.files s.now).trans hmeasured
  | poll files now => exact flow_pollStatus files now

/-! ### Runs -/

theorem run_flow (steps : List Step) :
    (d.run steps).flow = (readings steps).foldl Flow.take d.flow := by
  induction steps generalizing d with
  | nil => rfl
  | cons st steps ih =>
    rw [run_cons, ih, step_flow]
    cases h : st.reading? with
    | none => simp [readings, h]
    | some r => simp [readings, h]

/-- **The history is told by the readings.**  Take any run with a history that has room, with any
counters at any instants.  Then

* each direction holds as many rates as there is room for, and together they are the newest of the
  zeros of the start and the rates between neighbouring readings behind them;
* the rates that are shown are the newest of them;
* the name that is shown is the one of the last reading;
* with one reading or none, nothing is pushed, whatever the history was. -/
theorem history_of_readings (c : Config) (hc : 0 < c.historyLength) (steps : List Step) :
    let room := c.historyLength.toNat
    let d := (start c).run steps
    let rates := List.zipWith bitsPerSecond (readings steps) (readings steps).tail
    (d.history.download.length = room ∧ d.history.upload.length = room ∧
      d.history.samples = (List.replicate room (⟨0, 0⟩ : Traffic) ++ rates).rtake room) ∧
    d.history.samples.getLast? = some d.rates ∧
    d.interfaceName = ((readings steps).getLast?.map (·.busiest)).getD "No Interface" ∧
    ((readings steps).length ≤ 1 →
      ∀ h, (Dashboard.run { start c with history := h } steps).history = h) := by
  intro room d rates
  have hroom : 0 < room := hc
  have hrun : ∀ h, (Dashboard.run { start c with history := h } steps).flow =
      ⟨rates.foldl History.push h, rates.getLast?.getD ⟨0, 0⟩,
        ((readings steps).getLast?.map (·.busiest)).getD "No Interface",
        (readings steps).getLast?.or none⟩ := by
    intro h
    rw [run_flow, Flow.foldl_take]
    simp only [flow, start, ratesAfter_none, rates]
  have hd : d.flow = _ := hrun (start c).history
  have hhistory : d.history =
      .ofSamples room ((List.replicate room (⟨0, 0⟩ : Traffic) ++ rates).rtake room) := by
    rw [← History.foldl_push (by simp), ← History.ofLimit_eq]
    exact congrArg Flow.history hd
  have hrates : d.rates = rates.getLast?.getD ⟨0, 0⟩ := congrArg Flow.rates hd
  refine ⟨⟨?_, ?_, ?_⟩, ?_, congrArg Flow.interfaceName hd, fun hone h => ?_⟩
  · simp [hhistory, History.ofSamples, History.length_rtake]
  · simp [hhistory, History.ofSamples, History.length_rtake]
  · rw [hhistory, History.samples_ofSamples]
  · -- there is room for the newest one, and the zeros are behind it if there is no rate
    rw [hhistory, History.samples_ofSamples, History.getLast?_rtake hroom, List.getLast?_append,
      List.getLast?_replicate, if_neg (by omega), hrates]
    cases rates.getLast? <;> rfl
  · have hnone : rates = [] := by
      rw [← List.length_eq_zero_iff, List.length_zipWith, List.length_tail]
      omega
    have hpushed : (Dashboard.run { start c with history := h } steps).history =
        rates.foldl History.push h := congrArg Flow.history (hrun h)
    rw [hpushed, hnone, List.foldl_nil]

/-- An update that reads these counters and meets nothing else. -/
def readingStep (received transmitted : UInt64) (busiest : String) (instant : Nat) : Step :=
  .update ⟨⟨received, transmitted, busiest, instant⟩, none, .ofWorkingDirectory [], instant⟩

/-- Room for two rates, and four readings: one rate falls out of the history, a counter is reset,
and in the end the clock steps back. -/
theorem history_of_four_readings :
    let c : Config := { Config.default with historyLength := 2 }
    let steps : List Step :=
      [readingStep 0 0 "lo" 0, readingStep 1000 500 "eth0" 1000000000, .key (.char 'c'),
        readingStep 10 1500 "eth0" 3000000000, readingStep 5000 5000 "eth1" 0]
    let d := (start c).run steps
    0 < c.historyLength ∧
    List.zipWith bitsPerSecond (readings steps) (readings steps).tail =
      [⟨8000, 4000⟩, ⟨0, 4000⟩, ⟨0, 0⟩] ∧
    d.history.samples = [⟨0, 4000⟩, ⟨0, 0⟩] ∧
    d.history.samples.getLast? = some d.rates ∧
    d.interfaceName = "eth1" := by
  intro c steps d
  have hc : 0 < c.historyLength := by decide
  have hrates : List.zipWith bitsPerSecond (readings steps) (readings steps).tail =
      [⟨8000, 4000⟩, ⟨0, 4000⟩, ⟨0, 0⟩] := by decide +kernel
  obtain ⟨⟨-, -, hsamples⟩, hnewest, hname, -⟩ := history_of_readings c hc steps
  refine ⟨hc, hrates, ?_, hnewest, hname⟩
  rw [hsamples, hrates]
  rfl

end Dashboard

end ShaperDash
