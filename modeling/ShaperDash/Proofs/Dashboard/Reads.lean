import Mathlib.Data.List.Chain
import ShaperDash.Proofs.Dashboard.Polls

/-!
# How often the status file is read

Every look at the status may read the file, but only some do: a look that comes too early leaves the
file alone.  The instants of the reads are collected along a run, whatever the file holds at each of
them.

* `Dashboard.reads` : the instants at which the steps of a run read the file.
* `Dashboard.reads_eq_performed` : the reads of a run are those of its looks that were due.
* `Look.isChain_performed` : each read comes at least one interval after the one before.
* `add_length_mul_le` : instants with an interval between them need room.
* `Dashboard.reads_rationed` : **reads are rationed.**  A look reads exactly if the interval has
  passed since the latest read, so that a window of time has room for few reads.
-/

namespace ShaperDash

/-! ### Instants with an interval between them -/

section

variable {interval : Nat}

/-- The second instant comes at least one interval after the first. -/
def Apart (interval : Nat) (s t : Nat) : Prop := s + interval ≤ t

instance (interval s t : Nat) : Decidable (Apart interval s t) :=
  inferInstanceAs (Decidable (s + interval ≤ t))

theorem Apart.trans {s t u : Nat} (h : Apart interval s t) (h' : Apart interval t u) :
    Apart interval s u :=
  Nat.le_trans h (Nat.le_trans (Nat.le_add_right t interval) h')

/-- Instants between `first` and `last`, each at least one interval after the one before, are so few
that an interval for each of them ends no later than one interval behind `last`. -/
theorem add_length_mul_le {ts : List Nat} (hts : ts.Pairwise (Apart interval)) {first last : Nat}
    (hbounds : ∀ t ∈ ts, first ≤ t ∧ t ≤ last) (hroom : first ≤ last + interval) :
    first + ts.length * interval ≤ last + interval := by
  induction ts generalizing first with
  | nil => simpa using hroom
  | cons t ts ih =>
    obtain ⟨hlater, hts⟩ := List.pairwise_cons.1 hts
    obtain ⟨ht, hbounds⟩ := List.forall_mem_cons.1 hbounds
    -- the other instants lie between the end of the interval of `t` and `last`
    have hrest : t + interval + ts.length * interval ≤ last + interval :=
      ih hts (fun u hu => ⟨hlater u hu, (hbounds u hu).2⟩) (by omega)
    rw [List.length_cons, Nat.succ_mul]
    omega

/-- A window has room for as many instants as it holds intervals, and for one more. -/
theorem length_window_le (hi : 0 < interval) {ts : List Nat}
    (hts : ts.Pairwise (Apart interval)) (first length : Nat) :
    (ts.filter fun t => first ≤ t ∧ t ≤ first + length).length ≤ length / interval + 1 := by
  have hbounds : ∀ t ∈ ts.filter fun t => first ≤ t ∧ t ≤ first + length,
      first ≤ t ∧ t ≤ first + length := by
    intro t ht
    simpa using (List.mem_filter.1 ht).2
  have hfit := add_length_mul_le (hts.sublist List.filter_sublist) hbounds (by omega)
  rw [← Nat.add_div_right _ hi, Nat.le_div_iff_mul_le hi]
  omega

end

/-! ### The looks that read -/

namespace Look

variable {interval : Nat}

/-- Each read comes at least one interval after the one before, the first after that at `last`. -/
theorem isChain_performed (hi : 0 < interval) (last : Option Nat) (looks : List Look) :
    (last.toList ++ (performed interval last looks).map now).IsChain (Apart interval) := by
  induction looks generalizing last with
  | nil => cases last <;> simp [performed]
  | cons l ls ih =>
    rw [performed]
    split
    · next hdue =>
      have hrest : (l.now :: (performed interval (some l.now) ls).map now).IsChain
        (Apart interval) := ih (some l.now)
      cases last with
      | none => exact hrest
      | some t =>
        -- a positive interval has passed, so the clock has not gone back
        have ht : interval ≤ l.now - t := hdue t rfl
        exact hrest.cons_cons (show t + interval ≤ l.now by omega)
    · exact ih last

theorem lastRead_eq_getLast? (last : Option Nat) (reads : List Look) :
    lastRead last reads = (reads.map now).getLast?.or last := by
  induction reads generalizing last with
  | nil => rfl
  | cons l ls ih =>
    rw [lastRead, List.foldl_cons]
    refine (ih (some l.now)).trans ?_
    rw [List.map_cons, List.getLast?_cons]
    cases (ls.map now).getLast? <;> rfl

end Look

/-! ### The reads of a run -/

namespace Dashboard

/-- The instant at which a step reads the file, if it does: when it looks at the status and the
poller finds that it is time. -/
def readAt (d : Dashboard) (st : Step) : Option Nat :=
  (st.look?.filter fun l => d.poller.any (·.due l.now)).map Look.now

/-- The instants at which the steps of a run read the file. -/
def reads (d : Dashboard) : List Step → List Nat
  | [] => []
  | st :: steps => (d.readAt st).toList ++ reads (d.step st).dashboard steps

variable {d : Dashboard} {path : String} {interval : Nat} {last : Option Nat}

theorem due_iff (l : Look) :
    Poller.due ⟨path, interval, last⟩ l.now = true ↔ l.Due interval last := by
  cases last <;> simp [Poller.due, Look.Due]

theorem readAt_eq_some_iff (hd : d.poller = some ⟨path, interval, last⟩) {st : Step} {l : Look}
    (hl : st.look? = some l) : d.readAt st = some l.now ↔ l.Due interval last := by
  have hdue : Poller.due ⟨path, interval, last⟩ l.now = true ↔ _ := due_iff l
  by_cases h : l.Due interval last
  · simp [readAt, hl, hd, hdue.2 h, h]
  · simp [readAt, hl, hd, Bool.eq_false_iff.2 (mt hdue.1 h), h]

/-- A look that does not read leaves the dashboard and the log as they are, whatever the file
holds. -/
theorem pollStatus_of_not_due {p : Poller} (hd : d.poller = some p) {now : Nat}
    (h : p.due now = false) (files : FileTree) : d.pollStatus files now = (d, []) := by
  simp [pollStatus, hd, h]

/-- The reads of a run are those of its looks that were due. -/
theorem reads_eq_performed (hd : d.poller = some ⟨path, interval, last⟩) (steps : List Step) :
    d.reads steps = (Look.performed interval last (looks steps)).map Look.now := by
  -- the induction is over all instants of the latest read, since every read moves it
  induction steps generalizing d last with
  | nil => rfl
  | cons st steps ih =>
    have hb : (d.besides st).poller = some ⟨path, interval, last⟩ := (poller_besides st).trans hd
    rw [reads, step_eq]
    cases hl : st.look? with
    | none => simpa [readAt, looks, hl] using ih hb
    | some l =>
      have hread := readAt_eq_some_iff hd hl
      simp only [look_eq hb, looks, List.filterMap_cons, hl, Look.performed]
      split_ifs with h
      · rw [hread.2 h, List.map_cons]
        exact congrArg (l.now :: ·) (ih rfl)
      · have hnone : d.readAt st = none := by
          have hfilter : d.readAt st = none ∨ d.readAt st = some l.now := by
            simp only [readAt, hl, Option.filter_some]
            split_ifs <;> simp
          exact hfilter.resolve_right (mt hread.1 h)
        rw [hnone]
        exact ih hb

/-- The poller knows the latest read of a run. -/
theorem poller_run (hd : d.poller = some ⟨path, interval, last⟩) (steps : List Step) :
    (d.run steps).poller = some ⟨path, interval, (d.reads steps).getLast?.or last⟩ := by
  rw [(run_polls hd steps).1, Look.lastRead_eq_getLast?, reads_eq_performed hd]

/-- **Reads are rationed.**  Take any run of a dashboard whose poller has any interval, with looks
at any instants, also with a clock that steps back, and with any files at each of them.  The next
look reads the file exactly if no step has read it or the interval has passed since the latest read;
if it does not read, it changes nothing whatever the files are, and if it does, the poller keeps its
instant whatever came of the read.  So with a positive interval each read comes at least that long
after the one before, and no window of time holds more reads than one for each interval in it and
one more. -/
theorem reads_rationed (c : Config) (path : String) (interval : Nat) (steps : List Step) :
    let start := { start c with poller := some (.ofPath path interval) }
    let d := start.run steps
    let reads := start.reads steps
    (∀ st l, st.look? = some l →
      (d.readAt st = some l.now ↔ ∀ t ∈ reads.getLast?, interval ≤ l.now - t) ∧
      (d.readAt st = none → ∀ files, (d.besides st).pollStatus files l.now = (d.besides st, [])) ∧
      (d.readAt st = some l.now → ∀ files, ((d.besides st).pollStatus files l.now).1 =
        { d.besides st with
          poller := some ⟨path, interval, some l.now⟩
          status := (Look.status? path ⟨files, l.now⟩).or (d.besides st).status })) ∧
    (0 < interval →
      reads.IsChain (fun s t => s < t ∧ s + interval ≤ t) ∧
      ∀ first length, (reads.filter fun t => first ≤ t ∧ t ≤ first + length).length ≤
        length / interval + 1) := by
  intro start d reads
  have hstart : start.poller = some ⟨path, interval, none⟩ := rfl
  have hd : d.poller = some ⟨path, interval, reads.getLast?⟩ := by
    simpa using poller_run hstart steps
  refine ⟨fun st l hl => ?_, fun hi => ?_⟩
  · have hb : (d.besides st).poller = _ := (poller_besides st).trans hd
    have hread := readAt_eq_some_iff hd hl
    refine ⟨hread, fun hnone files => ?_, fun hsome files => ?_⟩
    · refine pollStatus_of_not_due hb ?_ files
      have : ¬ l.Due interval reads.getLast? := by rw [← hread, hnone]; simp
      exact Bool.eq_false_iff.2 (mt (due_iff l).1 this)
    · have hdue : Look.Due interval reads.getLast? ⟨files, l.now⟩ := hread.1 hsome
      exact (look_eq hb ⟨files, l.now⟩).trans (if_pos hdue)
  · have hchain : reads.IsChain (Apart interval) := by
      have := Look.isChain_performed hi none (looks steps)
      rwa [← reads_eq_performed hstart] at this
    refine ⟨hchain.imp fun s t (hst : s + interval ≤ t) => ⟨by omega, hst⟩, ?_⟩
    have : IsTrans Nat (Apart interval) := ⟨fun _ _ _ => Apart.trans⟩
    exact length_window_le hi (List.isChain_iff_pairwise.1 hchain)

end Dashboard

end ShaperDash
