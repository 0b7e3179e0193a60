import Mathlib.Tactic.SplitIfs
import ShaperDash.Dashboard

/-!
# The status over a whole run

Some steps of the dashboard look at the status: they are `Look`s, each with the files and the
instant it meets.  Whether a look reads the file depends on the reads before it alone, so the reads
of a run are a list (`Look.performed`) that is told without the dashboard.

* `Dashboard.step_eq` : a step is what it does besides looking, and then a look if it has one.
* `Dashboard.run_polls` : what a whole run leaves in the poller and in the status, told by the reads
  it performed.
* `Dashboard.status_of_latest_good_read` : **the status is the latest good one.**  After every run
  the dashboard shows what the latest successful read found, and nothing if there was none; a look
  that fails or that comes too early leaves everything else as it was.
-/

namespace ShaperDash

/-- An occasion to read the status: the files and the instant. -/
structure Look where
  files : FileTree
  now : Nat

namespace Look

/-- The file at `path` is a text that spells the status `s`. -/
def Shows (path : String) (l : Look) (s : Status) : Prop :=
  ∃ text, l.files.readText path = .ok text ∧ Status.decode text = .ok s

/-- What the file at `path` spells, if it can be read. -/
def status? (path : String) (l : Look) : Option Status := (l.files.readStatus path).toOption

/-- The interval has passed since the latest read. -/
def Due (interval : Nat) (last : Option Nat) (l : Look) : Prop := ∀ t ∈ last, interval ≤ l.now - t

instance (interval : Nat) (last : Option Nat) (l : Look) : Decidable (l.Due interval last) :=
  inferInstanceAs (Decidable (∀ t ∈ last, interval ≤ l.now - t))

/-- The looks that read the file, if the latest read before them was at `last`. -/
def performed (interval : Nat) : Option Nat → List Look → List Look
  | _, [] => []
  | last, l :: ls =>
    if l.Due interval last then l :: performed interval (some l.now) ls
    else performed interval last ls

/-- The instant of the latest read. -/
def lastRead (last : Option Nat) (reads : List Look) : Option Nat :=
  reads.foldl (fun _ l => some l.now) last

/-- The status after some reads: each good one replaces what was there. -/
def latest (path : String) (status : Option Status) (reads : List Look) : Option Status :=
  reads.foldl (fun s l => (l.status? path).or s) status

/-- The latest of the reads that succeeded found `s`. -/
def LatestGood (path : String) (reads : List Look) (s : Status) : Prop :=
  ∃ before l after, reads = before ++ l :: after ∧ l.Shows path s ∧
    ∀ l' ∈ after, ∀ s', ¬ l'.Shows path s'

variable {path : String} {l : Look} {s : Status}

theorem readStatus_eq_ok_iff {files : FileTree} :
    files.readStatus path = .ok s ↔
      ∃ text, files.readText path = .ok text ∧ Status.decode text = .ok s := by
  unfold FileTree.readStatus
  cases files.readText path with
  | error e => simp
  | ok text => cases h : Status.decode text <;> simp [Except.mapError, h]

theorem status?_eq_some_iff : l.status? path = some s ↔ l.Shows path s := by
  rw [Shows, ← readStatus_eq_ok_iff, status?]
  cases l.files.readStatus path <;> simp [Except.toOption]

theorem status?_eq_none_iff : l.status? path = none ↔ ∀ s, ¬ l.Shows path s := by
  simp only [← status?_eq_some_iff, Option.eq_none_iff_forall_ne_some, ne_eq]

theorem latest_eq_some_iff {status : Option Status} {reads : List Look} :
    latest path status reads = some s ↔
      LatestGood path reads s ∨ (∀ l ∈ reads, ∀ s', ¬ l.Shows path s') ∧ status = some s := by
  induction reads generalizing status with
  | nil => simp [latest, LatestGood]
  | cons l ls ih =>
    rw [latest, List.foldl_cons]
    refine ih.trans ?_
    constructor
    · rintro (⟨before, k, after, rfl, hk, ha⟩ | ⟨hls, hs⟩)
      · exact .inl ⟨l :: before, k, after, rfl, hk, ha⟩
      · cases hl : l.status? path with
        | none =>
          refine .inr ⟨?_, by simpa [hl] using hs⟩
          exact List.forall_mem_cons.2 ⟨status?_eq_none_iff.1 hl, hls⟩
        | some s' =>
          obtain rfl : s' = s := by simpa [hl] using hs
          exact .inl ⟨[], l, ls, rfl, status?_eq_some_iff.1 hl, hls⟩
    · rintro (⟨before, k, after, heq, hk, ha⟩ | ⟨hls, hs⟩)
      · cases before with
        | nil =>
          obtain ⟨rfl, rfl⟩ : l = k ∧ ls = after := by simpa using heq
          exact .inr ⟨ha, by simp [status?_eq_some_iff.2 hk]⟩
        | cons b before =>
          obtain ⟨-, rfl⟩ : l = b ∧ ls = before ++ k :: after := by simpa using heq
          exact .inl ⟨before, k, after, rfl, hk, ha⟩
      · obtain ⟨hl, hls⟩ := List.forall_mem_cons.1 hls
        exact .inr ⟨hls, by simpa [status?_eq_none_iff.2 hl] using hs⟩

/-- A good read is never forgotten. -/
theorem latest_some_ne_none {reads : List Look} : latest path (some s) reads ≠ none := by
  induction reads generalizing s with
  | nil => simp [latest]
  | cons l ls ih =>
    rw [latest, List.foldl_cons]
    cases hl : l.status? path with
    | none => exact ih
    | some s' => exact ih

theorem latest_eq_none_iff {reads : List Look} :
    latest path none reads = none ↔ ∀ l ∈ reads, ∀ s, ¬ l.Shows path s := by
  induction reads with
  | nil => simp [latest]
  | cons l ls ih =>
    rw [List.forall_mem_cons, ← status?_eq_none_iff, latest, List.foldl_cons]
    cases hl : l.status? path with
    | none => simpa [latest] using ih
    | some s =>
      simp only [Option.some_or, reduceCtorEq, false_and, iff_false]
      exact latest_some_ne_none

end Look

namespace Dashboard

/-- The look at the status that a step takes, if it takes one. -/
def Step.look? : Step → Option Look
  | .key _ => none
  | .toggle => none
  | .update s => some ⟨s.files, s.now⟩
  | .poll files now => some ⟨files, now⟩

/-- The looks of a run. -/
def looks (steps : List Step) : List Look := steps.filterMap Step.look?

variable (d : Dashboard)

/-- What a step does besides looking at the status. -/
def besides : Step → Dashboard
  | .key k => if isQuit k then d else (d.press k).1
  | .toggle => d.toggle.1
  | .update s => (d.observe s.reading).1.measure s.sample
  | .poll _ _ => d

/-- The dashboard after a look at the status. -/
def look (l : Look) : Dashboard := (d.pollStatus l.files l.now).1

variable {d}

/-! ### One look -/

theorem look_eq {path : String} {interval : Nat} {last : Option Nat}
    (hd : d.poller = some ⟨path, interval, last⟩) (l : Look) :
    d.look l =
      if l.Due interval last then
        { d with
          poller := some ⟨path, interval, some l.now⟩
          status := (l.status? path).or d.status }
      else d := by
  have hdue : (Poller.due ⟨path, interval, last⟩ l.now = true) ↔ l.Due interval last := by
    cases last <;> simp [Poller.due, Look.Due]
  by_cases h : l.Due interval last
  · have hp := hdue.2 h
    -- a read that fails still counts as one
    simp only [look, pollStatus, hd, hp, Poller.poll, Look.status?, if_pos h]
    cases l.files.readStatus path <;> simp [Except.toOption]
  · have hp : Poller.due ⟨path, interval, last⟩ l.now = false := by
      simpa using mt hdue.1 h
    simp [look, pollStatus, hd, hp, h]

/-! ### One step -/

theorem poller_observe (r : Reading) : (d.observe r).1.poller = d.poller := by
  unfold observe
  split <;> rfl

theorem status_observe (r : Reading) : (d.observe r).1.status = d.status := by
  unfold observe
  split <;> rfl

theorem poller_besides (st : Step) : (d.besides st).poller = d.poller := by
  cases st with
  | key k => simp only [besides, press, toggle]; split_ifs <;> rfl
  | toggle => rfl
  | update s => exact poller_observe s.reading
  | poll files now => rfl

theorem status_besides (st : Step) : (d.besides st).status = d.status := by
  cases st with
  | key k => simp only [besides, press, toggle]; split_ifs <;> rfl
  | toggle => rfl
  | update s => exact status_observe s.reading
  | poll files now => rfl

/-- A step is what it does besides looking at the status, and then a look if it takes one. -/
theorem step_eq (st : Step) :
    (d.step st).dashboard =
      match st.look? with
      | none => d.besides st
      | some l => (d.besides st).look l := by
  cases st with
  | key k => simp only [step, besides, Step.look?]; split <;> rfl
  | toggle => rfl
  | update s => rfl
  | poll files now => rfl

/-! ### Runs -/

theorem run_cons (st : Step) (steps : List Step) :
    d.run (st :: steps) = (d.step st).dashboard.run steps := rfl

/-- What a run of a dashboard with a poller leaves in its poller and its status. -/
theorem run_polls {path : String} {interval : Nat} {last : Option Nat}
    (hd : d.poller = some ⟨path, interval, last⟩) (steps : List Step) :
    (d.run steps).poller =
        some ⟨path, interval, Look.lastRead last (Look.performed interval last (looks steps))⟩ ∧
      (d.run steps).status =
        Look.latest path d.status (Look.performed interval last (looks steps)) := by
  -- the induction is over all instants of the latest read, since every read moves it
  induction steps generalizing d last with
  | nil => exact ⟨hd, rfl⟩
  | cons st steps ih =>
    have hb : (d.besides st).poller = some ⟨path, interval, last⟩ := (poller_besides st).trans hd
    rw [run_cons, step_eq]
    cases hl : st.look? with
    | none =>
      have := ih hb
      rw [status_besides] at this
      simpa [looks, hl] using this
    | some l =>
      simp only [look_eq hb, looks, List.filterMap_cons, hl, Look.performed]
      split_ifs with h
      · have := ih (d := { d.besides st with
          poller := some ⟨path, interval, some l.now⟩
          status := (l.status? path).or (d.besides st).status }) rfl
        simpa [status_besides, Look.lastRead, Look.latest, looks] using this
      · have := ih hb
        rw [status_besides] at this
        exact this

/-- **The status is the latest good one.**  Let `reads` be the looks of a run that read the file.
The dashboard then shows exactly what the latest of them that succeeded found, or nothing if none
did, and warns of a reload exactly if that status asks for one.  Besides, the next step leaves
everything as it was but for the looking: nothing at all changes if it comes too early, and the
instant of the latest read if the read fails. -/
theorem status_of_latest_good_read (c : Config) (path : String) (steps : List Step) :
    let d := (start { c with statusFile := some path }).run steps
    let reads := Look.performed c.statusInterval none (looks steps)
    (∀ s, d.status = some s ↔ Look.LatestGood path reads s) ∧
    (d.status = none ↔ ∀ l ∈ reads, ∀ s, ¬ l.Shows path s) ∧
    (reloadWarning d.status = true ↔
      ∃ s, Look.LatestGood path reads s ∧ s.reloadRequired = true) ∧
    ∀ st, (st.look? = none → (d.step st).dashboard = d.besides st) ∧
      ∀ l, st.look? = some l →
        (¬ l.Due c.statusInterval (Look.lastRead none reads) →
          (d.step st).dashboard = d.besides st) ∧
        (l.Due c.statusInterval (Look.lastRead none reads) → (∀ s, ¬ l.Shows path s) →
          (d.step st).dashboard =
            { d.besides st with poller := some ⟨path, c.statusInterval, some l.now⟩ }) := by
  intro d reads
  obtain ⟨hp, hs⟩ : d.poller = some ⟨path, c.statusInterval, Look.lastRead none reads⟩ ∧
      d.status = Look.latest path none reads :=
    run_polls (d := start { c with statusFile := some path }) rfl steps
  have hsome : ∀ s, d.status = some s ↔ Look.LatestGood path reads s := by
    intro s
    rw [hs, Look.latest_eq_some_iff]
    simp
  refine ⟨hsome, ?_, ?_, ?_⟩
  · rw [hs, Look.latest_eq_none_iff]
  · simp only [← hsome]
    cases d.status <;> simp [reloadWarning]
  · intro st
    have hb : (d.besides st).poller = _ := (poller_besides st).trans hp
    refine ⟨fun hl => by rw [step_eq, hl], fun l hl => ⟨fun hdue => ?_, fun hdue hbad => ?_⟩⟩
    · simp only [step_eq, hl, look_eq hb, if_neg hdue]
    · simp only [step_eq, hl, look_eq hb, if_pos hdue, Look.status?_eq_none_iff.2 hbad,
        Option.none_or]

end Dashboard

end ShaperDash
