import Mathlib.Logic.Function.Iterate
import Mathlib.Tactic.SplitIfs
import ShaperDash.Proofs.Dashboard.Polls

/-!
# Keys and data do not meet

The steps of a dashboard are of two kinds: inputs, which come from whoever sits in front of it, and
the steps that bring data.  Inputs reach the palette and its label alone, and data reaches
everything else; neither reads what the other writes.  So a run falls into two runs that can be told
apart: **without its inputs a run leaves the same data, and without the other steps the same
palette, the same label and the same answers to all keys** (`keys_and_data_independent`).

* `Dashboard.step_of_isInput` : an input repaints the dashboard.
* `Dashboard.step_painted` : the other steps do not see the paint.
* `Dashboard.run_painted`, `Dashboard.palette_run`, `Dashboard.answers_eq` : the same of runs.
-/

namespace ShaperDash

namespace Dashboard

/-! ### Two kinds of steps -/

/-- The key that a step presses, if it presses one. -/
def Step.key? : Step → Option Key
  | .key k => some k
  | .toggle => none
  | .update _ => none
  | .poll _ _ => none

/-- The step comes from whoever sits in front of the dashboard. -/
def Step.isInput : Step → Bool
  | .key _ => true
  | .toggle => true
  | .update _ => false
  | .poll _ _ => false

/-- The step asks for the other palette. -/
def Step.flips : Step → Bool
  | .key k => isToggle k
  | .toggle => true
  | .update _ => false
  | .poll _ _ => false

/-- The answers to the key presses of a run, which say whether the session should end. -/
def answers (d : Dashboard) : List Step → List Bool
  | [] => []
  | .key k :: steps => (d.step (.key k)).quit :: answers (d.step (.key k)).dashboard steps
  | st :: steps => answers (d.step st).dashboard steps

/-- The dashboard with another palette and another label. -/
def painted (d : Dashboard) (palette : Palette) (label : String) : Dashboard :=
  { d with palette := palette, paletteLabel := label }

variable {d : Dashboard} {st : Step}

theorem Step.isInput_of_flips (h : st.flips = true) : st.isInput = true := by
  cases st with
  | key k => rfl
  | toggle => rfl
  | update s => exact h
  | poll files now => exact h

theorem Step.key?_eq_none (h : st.isInput = false) : st.key? = none := by
  cases st with
  | key k => exact Bool.noConfusion h
  | toggle => rfl
  | update s => rfl
  | poll files now => rfl

/-! ### One step -/

theorem isToggle_eq_false_of_isQuit {k : Key} (h : isQuit k = true) : isToggle k = false := by
  obtain rfl | rfl : k = .char 'q' ∨ k = .char 'Q' := by simpa [isQuit] using h
  · rfl
  · rfl

/-- An input repaints the dashboard. -/
theorem step_of_isInput (h : st.isInput = true) :
    (d.step st).dashboard =
      if st.flips then d.painted d.palette.other d.palette.label else d := by
  cases st with
  | key k =>
    by_cases hq : isQuit k = true
    · simp [step, Step.flips, hq, isToggle_eq_false_of_isQuit hq]
    · by_cases ht : isToggle k = true
      · simp [step, press, toggle, Palette.toggle, painted, Step.flips, hq, ht,
          Palette.other_other]
      · simp [step, press, Step.flips, hq, ht]
  | toggle => simp [step, toggle, Palette.toggle, painted, Step.flips, Palette.other_other]
  | update s => exact Bool.noConfusion h
  | poll files now => exact Bool.noConfusion h

theorem observe_painted (r : Reading) (p : Palette) (label : String) :
    ((d.painted p label).observe r).1 = (d.observe r).1.painted p label := by
  unfold observe
  cases h : d.lastReading with
  | none => simp [painted, h]
  | some last => simp [painted, h]

theorem pollStatus_painted (files : FileTree) (now : Nat) (p : Palette) (label : String) :
    ((d.painted p label).pollStatus files now).1 = (d.pollStatus files now).1.painted p label := by
  unfold pollStatus
  cases hp : d.poller with
  | none => simp [painted, hp]
  | some q =>
    cases hq : q.due now with
    | false => simp [painted, hp, hq]
    | true =>
      simp only [painted, hp, hq, Poller.poll, Bool.not_true, Bool.false_eq_true, if_false]
      cases files.readStatus q.path <;> rfl

/-- A step that brings data does not see how the dashboard is painted. -/
theorem step_painted (h : st.isInput = false) (p : Palette) (label : String) :
    ((d.painted p label).step st).dashboard = (d.step st).dashboard.painted p label := by
  cases st with
  | key k => exact Bool.noConfusion h
  | toggle => exact Bool.noConfusion h
  | update s =>
    let d' := (d.observe s.reading).1.measure s.sample
    have hobserved : ((d.painted p label).step (.update s)).dashboard =
        ((d'.painted p label).pollStatus s.files s.now).1 := by
      simp only [step, update, observe_painted]
      rfl
    exact hobserved.trans (pollStatus_painted s.files s.now p label)
  | poll files now => exact pollStatus_painted files now p label

/-- A step that brings data does not paint: it takes a dashboard that is painted as it is to one
that is painted the same. -/
theorem paint_step (h : st.isInput = false) :
    (d.step st).dashboard.palette = d.palette ∧
      (d.step st).dashboard.paletteLabel = d.paletteLabel := by
  have hstep : (d.step st).dashboard = (d.step st).dashboard.painted d.palette d.paletteLabel :=
    step_painted h d.palette d.paletteLabel
  rw [hstep]
  exact ⟨rfl, rfl⟩

theorem palette_step (st : Step) :
    (d.step st).dashboard.palette = if st.flips then d.palette.other else d.palette := by
  cases h : st.isInput with
  | true =>
    rw [step_of_isInput h]
    split_ifs <;> rfl
  | false =>
    have hflips : ¬ st.flips = true := fun hf => by simp [Step.isInput_of_flips hf] at h
    rw [if_neg hflips]
    exact (paint_step h).1

/-- The label names the palette of the next toggle, if it did before. -/
theorem paletteLabel_step (hd : d.paletteLabel = d.palette.other.label) (st : Step) :
    (d.step st).dashboard.paletteLabel = (d.step st).dashboard.palette.other.label := by
  cases h : st.isInput with
  | true =>
    rw [step_of_isInput h]
    split_ifs with hf
    · simp [painted, Palette.other_other]
    · exact hd
  | false =>
    obtain ⟨hpalette, hlabel⟩ := paint_step (d := d) h
    rw [hpalette, hlabel, hd]

/-- The answer to a key depends on the key alone. -/
theorem quit_key (k : Key) : (d.step (.key k)).quit = isQuit k := by
  simp only [step]
  split_ifs with h
  · exact h.symm
  · simpa using h

/-! ### Runs -/

/-- Two dashboards that show the same but for the paint do so after every run, if one of them gets
no inputs. -/
theorem run_painted (steps : List Step) (p : Palette) (label : String) :
    ∃ p' label', (d.painted p label).run steps =
      (d.run (steps.filter fun st => !st.isInput)).painted p' label' := by
  induction steps generalizing d p label with
  | nil => exact ⟨p, label, rfl⟩
  | cons st steps ih =>
    cases h : st.isInput with
    | true =>
      have hstep : ∃ p' label', ((d.painted p label).step st).dashboard = d.painted p' label' := by
        rw [step_of_isInput h]
        split_ifs
        · exact ⟨p.other, p.label, rfl⟩
        · exact ⟨p, label, rfl⟩
      obtain ⟨p', label', hstep⟩ := hstep
      obtain ⟨p'', label'', hrun⟩ := ih (d := d) p' label'
      refine ⟨p'', label'', ?_⟩
      rw [run_cons, hstep]
      simpa [h] using hrun
    | false =>
      obtain ⟨p', label', hrun⟩ := ih (d := (d.step st).dashboard) p label
      refine ⟨p', label', ?_⟩
      rw [run_cons, step_painted h]
      simpa [h, run_cons] using hrun

theorem palette_run (steps : List Step) :
    (d.run steps).palette = Palette.other^[steps.countP Step.flips] d.palette := by
  induction steps generalizing d with
  | nil => rfl
  | cons st steps ih =>
    rw [run_cons, ih, palette_step, List.countP_cons]
    split_ifs <;> rfl

theorem paletteLabel_run (hd : d.paletteLabel = d.palette.other.label) (steps : List Step) :
    (d.run steps).paletteLabel = (d.run steps).palette.other.label := by
  induction steps generalizing d with
  | nil => exact hd
  | cons st steps ih => exact ih (paletteLabel_step hd st)

theorem answers_eq (d : Dashboard) (steps : List Step) :
    d.answers steps = (steps.filterMap Step.key?).map isQuit := by
  induction steps generalizing d with
  | nil => rfl
  | cons st steps ih =>
    cases st with
    | key k => simp [answers, Step.key?, quit_key, ih]
    | toggle => simp [answers, Step.key?, List.filterMap_cons, ih]
    | update s => simp [answers, Step.key?, List.filterMap_cons, ih]
    | poll files now => simp [answers, Step.key?, List.filterMap_cons, ih]

/-! ### Inputs alone, data alone -/

theorem countP_flips_filter (steps : List Step) :
    (steps.filter Step.isInput).countP Step.flips = steps.countP Step.flips := by
  rw [List.countP_filter]
  refine List.countP_congr fun st _ => ?_
  simpa using Step.isInput_of_flips

theorem filterMap_key?_filter (steps : List Step) :
    (steps.filter Step.isInput).filterMap Step.key? = steps.filterMap Step.key? := by
  rw [List.filterMap_filter]
  congr 1
  funext st
  cases h : st.isInput with
  | true => rfl
  | false => exact (Step.key?_eq_none h).symm

/-- **Keys and data are independent.**  After every run

* the palette is the configured one, flipped once for each `c` and each toggle, and the label names
  the other one;
* everything but these two is as if there had been no inputs, and these two, and the answers to all
  keys, are as if there had been nothing but inputs;
* `q` and `Q` are the keys that end the session, and they change nothing. -/
theorem keys_and_data_independent (c : Config) (steps : List Step) :
    let d := (start c).run steps
    let inputs := steps.filter Step.isInput
    let data := steps.filter fun st => !st.isInput
    (d.palette = Palette.other^[steps.countP Step.flips] c.palette ∧
      d.paletteLabel = d.palette.other.label) ∧
    (d = ((start c).run data).painted d.palette d.paletteLabel ∧
      d.palette = ((start c).run inputs).palette ∧
      d.paletteLabel = ((start c).run inputs).paletteLabel ∧
      (start c).answers steps = (start c).answers inputs) ∧
    ∀ k, ((d.step (.key k)).quit = true ↔ k = .char 'q' ∨ k = .char 'Q') ∧
      ((d.step (.key k)).quit = true → (d.step (.key k)).dashboard = d) := by
  intro d inputs data
  have hpalette : d.palette = ((start c).run inputs).palette := by
    rw [palette_run, palette_run, countP_flips_filter]
  have hlabel : ∀ steps, ((start c).run steps).paletteLabel =
      ((start c).run steps).palette.other.label := paletteLabel_run rfl
  refine ⟨⟨palette_run steps, hlabel steps⟩, ⟨?_, hpalette, ?_, ?_⟩, fun k => ⟨?_, fun hq => ?_⟩⟩
  · obtain ⟨p, label, hrun⟩ := run_painted (d := start c) steps (start c).palette _
    have hd : d = ((start c).run data).painted p label := hrun
    rw [hd]
    rfl
  · rw [hlabel inputs, ← hpalette]
    exact hlabel steps
  · rw [answers_eq, answers_eq, filterMap_key?_filter]
  · simp [quit_key, isQuit]
  · rw [quit_key] at hq
    simp [step, hq]

end Dashboard

end ShaperDash
