import Mathlib.Tactic.SplitIfs
import ShaperDash.Proofs.Dashboard.Polls

/-!
# The notice of a reload

The log says that the shaper wants a reload when the badge comes up, and not as long as it stays.
What was up before is the latest status that could be read, so **looks that fail or come too early,
however many, do not make the next good one news** (`Dashboard.reload_noticed_once`).

* `Dashboard.count_reloadRequired_step` : a step puts the notice into the log exactly if the badge
  comes up in it.
* `Dashboard.count_reloadRequired_run` : a run puts in as many as there are rises among what its
  good reads found.
-/

namespace ShaperDash

/-- How often a flag rises, if it was `was` before. -/
def rises : Bool → List Bool → Nat
  | _, [] => 0
  | was, flag :: flags => (if was = false ∧ flag = true then 1 else 0) + rises flag flags

namespace Look

/-- What the good ones of some reads say about a reload. -/
def flags (path : String) (reads : List Look) : List Bool :=
  reads.filterMap fun l => (l.status? path).map (·.reloadRequired)

variable {path : String} {reads : List Look}

theorem flags_eq_nil (h : ∀ l ∈ reads, ∀ s, ¬ l.Shows path s) : flags path reads = [] := by
  rw [flags, List.filterMap_eq_nil_iff]
  intro l hl
  rw [status?_eq_none_iff.2 (h l hl), Option.map_none]

/-- Reads that fail leave the status. -/
theorem latest_of_forall_not_shows (h : ∀ l ∈ reads, ∀ s, ¬ l.Shows path s)
    (status : Option Status) : latest path status reads = status := by
  induction reads with
  | nil => rfl
  | cons l ls ih =>
    obtain ⟨hl, hls⟩ := List.forall_mem_cons.1 h
    rw [latest, List.foldl_cons, status?_eq_none_iff.2 hl, Option.none_or]
    exact ih hls

end Look

namespace Dashboard

/-- What a run puts into the log. -/
def emitted (d : Dashboard) : List Step → List LogEvent
  | [] => []
  | st :: steps => (d.step st).events ++ emitted (d.step st).dashboard steps

variable {d : Dashboard}

/-! ### One step -/

theorem count_reloadRequired_observe (r : Reading) :
    (d.observe r).2.count .reloadRequired = 0 := by
  unfold observe
  split <;> simp

theorem count_reloadRequired_press (k : Key) : (d.press k).2.count .reloadRequired = 0 := by
  unfold press toggle
  split_ifs <;> simp

/-- What was up before is compared with what is up afterwards. -/
theorem count_reloadRequired_pollStatus (files : FileTree) (now : Nat) :
    (d.pollStatus files now).2.count .reloadRequired =
      if reloadWarning d.status = false ∧ reloadWarning (d.pollStatus files now).1.status = true
      then 1 else 0 := by
  unfold pollStatus
  cases d.poller with
  | none => simp
  | some p =>
    cases hdue : p.due now with
    | false => simp [hdue]
    | true =>
      simp only [hdue, Poller.poll, Bool.not_true, Bool.false_eq_true, if_false]
      cases files.readStatus p.path with
      | ok s =>
        have hnew : reloadWarning (some s) = s.reloadRequired := rfl
        cases hs : s.reloadRequired <;> cases hd : reloadWarning d.status <;> simp [hnew, hs]
      | error e => cases hn : e.isNotFound <;> simp [hn]

/-- A step puts the notice into the log exactly if the badge comes up in it, and then once. -/
theorem count_reloadRequired_step (st : Step) :
    (d.step st).events.count .reloadRequired =
      if reloadWarning d.status = false ∧ reloadWarning (d.step st).dashboard.status = true
      then 1 else 0 := by
  have hquiet : st.look? = none → ¬ (reloadWarning d.status = false ∧
      reloadWarning (d.step st).dashboard.status = true) := by
    intro hl
    rw [step_eq, hl, status_besides]
    simp
  cases st with
  | key k =>
    rw [if_neg (hquiet rfl)]
    simp only [step]
    split_ifs
    · rfl
    · exact count_reloadRequired_press k
  | toggle =>
    rw [if_neg (hquiet rfl)]
    simp [step, toggle]
  | update s =>
    have hpoll := count_reloadRequired_pollStatus
      (d := (d.observe s.reading).1.measure s.sample) s.files s.now
    have hstatus : ((d.observe s.reading).1.measure s.sample).status = d.status :=
      status_observe s.reading
    rw [hstatus] at hpoll
    simp only [step, update, List.count_append, count_reloadRequired_observe, Nat.zero_add]
    exact hpoll
  | poll files now => exact count_reloadRequired_pollStatus files now

/-! ### Runs -/

/-- What a step leaves in the poller and the status of a dashboard with a poller. -/
theorem step_polls {path : String} {interval : Nat} {last : Option Nat}
    (hd : d.poller = some ⟨path, interval, last⟩) (st : Step) :
    (d.step st).dashboard.poller =
        some ⟨path, interval, Look.lastRead last (Look.performed interval last st.look?.toList)⟩ ∧
      (d.step st).dashboard.status =
        Look.latest path d.status (Look.performed interval last st.look?.toList) := by
  have hrun := run_polls hd [st]
  have hlooks : looks [st] = st.look?.toList := by cases h : st.look? <;> simp [looks, h]
  rwa [hlooks] at hrun

/-- The badge comes up exactly in a read that finds a status that asks for a reload, if it was not
up before. -/
theorem reloadRequired_mem_step_iff {path : String} {interval : Nat} {last : Option Nat}
    (hd : d.poller = some ⟨path, interval, last⟩) (st : Step) :
    .reloadRequired ∈ (d.step st).events ↔
      reloadWarning d.status = false ∧
        ∃ l s, st.look? = some l ∧ l.Due interval last ∧ l.Shows path s ∧
          s.reloadRequired = true := by
  have hup : .reloadRequired ∈ (d.step st).events ↔
      reloadWarning d.status = false ∧ reloadWarning (d.step st).dashboard.status = true := by
    rw [← List.count_pos_iff, count_reloadRequired_step]
    split_ifs with h <;> simp [h]
  rw [hup, (step_polls hd st).2]
  refine and_congr_right fun hdown => ?_
  simp only [← Look.status?_eq_some_iff]
  cases hl : st.look? with
  | none => simp [Look.performed, Look.latest, hdown]
  | some l =>
    by_cases hdue : l.Due interval last
    · cases hs : l.status? path with
      | none => simp [Look.performed, Look.latest, hdue, hs, hdown]
      | some s => simp [Look.performed, Look.latest, hdue, hs, reloadWarning]
    · simp [Look.performed, Look.latest, hdue, hdown]

/-- The notices of a run are the rises among what its good reads found. -/
theorem count_reloadRequired_run {path : String} {interval : Nat} {last : Option Nat}
    (hd : d.poller = some ⟨path, interval, last⟩) (steps : List Step) :
    (d.emitted steps).count .reloadRequired =
      rises (reloadWarning d.status)
        (Look.flags path (Look.performed interval last (looks steps))) := by
  induction steps generalizing d last with
  | nil => rfl
  | cons st steps ih =>
    obtain ⟨hpoller, hstatus⟩ := step_polls hd st
    rw [emitted, List.count_append, count_reloadRequired_step, ih hpoller, hstatus]
    cases hl : st.look? with
    | none => simp [looks, hl, Look.performed, Look.latest, Look.lastRead]
    | some l =>
      by_cases hdue : l.Due interval last
      · cases hs : l.status? path with
        | none => simp [looks, hl, Look.performed, Look.latest, Look.lastRead, Look.flags, hdue, hs]
        | some s =>
          simp [looks, hl, Look.performed, Look.latest, Look.lastRead, Look.flags, hdue, hs, rises,
            reloadWarning]
      · simp [looks, hl, Look.performed, Look.latest, Look.lastRead, hdue]

/-- **A reload is noticed once.**  Let `reads` be the looks of a run that read the file.  The next
step puts the notice into the log

* exactly if the badge comes up in it, and then once;
* that is, exactly if it reads the file and finds a status that asks for a reload, while the latest
  good read, if there was one, found one that does not.

Whatever happens meanwhile, the notice is not put into the log, and what is compared with stays, as
long as no look finds a status: the whole run holds as many notices as there are rises among what
its good reads found. -/
theorem reload_noticed_once (c : Config) (path : String) (steps : List Step) :
    let d₀ := start { c with statusFile := some path }
    let d := d₀.run steps
    let reads := Look.performed c.statusInterval none (looks steps)
    (∀ st, (d.step st).events.count .reloadRequired =
      if reloadWarning d.status = false ∧ reloadWarning (d.step st).dashboard.status = true
      then 1 else 0) ∧
    (∀ st, .reloadRequired ∈ (d.step st).events ↔
      ∃ l s, st.look? = some l ∧ l.Due c.statusInterval (Look.lastRead none reads) ∧
        l.Shows path s ∧ s.reloadRequired = true ∧
        ∀ s', Look.LatestGood path reads s' → s'.reloadRequired = false) ∧
    (∀ idle : List Step,
      (∀ l ∈ Look.performed c.statusInterval (Look.lastRead none reads) (looks idle),
        ∀ s, ¬ l.Shows path s) →
      .reloadRequired ∉ d.emitted idle ∧ (d.run idle).status = d.status) ∧
    (d₀.emitted steps).count .reloadRequired = rises false (Look.flags path reads) := by
  intro d₀ d reads
  obtain ⟨hpoller, hstatus⟩ :
      d.poller = some ⟨path, c.statusInterval, Look.lastRead none reads⟩ ∧
        d.status = Look.latest path none reads := run_polls (d := d₀) rfl steps
  refine ⟨count_reloadRequired_step, fun st => ?_, fun idle hidle => ⟨?_, ?_⟩,
    count_reloadRequired_run rfl steps⟩
  · have hwarning : reloadWarning d.status = false ↔
        ∀ s', Look.LatestGood path reads s' → s'.reloadRequired = false := by
      have hsome : ∀ s', d.status = some s' ↔ Look.LatestGood path reads s' := by
        intro s'
        rw [hstatus, Look.latest_eq_some_iff]
        simp
      simp only [← hsome]
      cases d.status <;> simp [reloadWarning]
    rw [reloadRequired_mem_step_iff hpoller, hwarning]
    constructor
    · rintro ⟨hdown, l, s, hl, hdue, hshows, hs⟩
      exact ⟨l, s, hl, hdue, hshows, hs, hdown⟩
    · rintro ⟨l, s, hl, hdue, hshows, hs, hdown⟩
      exact ⟨hdown, l, s, hl, hdue, hshows, hs⟩
  · rw [← List.count_pos_iff, count_reloadRequired_run hpoller idle, Look.flags_eq_nil hidle]
    simp [rises]
  · rw [(run_polls hpoller idle).2, Look.latest_of_forall_not_shows hidle]

end Dashboard

end ShaperDash
