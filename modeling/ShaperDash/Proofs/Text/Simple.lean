import Mathlib.Data.List.Basic
import ShaperDash.Number.Decimal
import ShaperDash.Pane.System
import ShaperDash.Screen.Text

/-!
# Texts of simple characters

Most of what the dashboard writes are characters that join no other character and take one column.
A text of such characters falls into clusters of one character each and takes as many columns as it
has characters.

* `simple_of_ascii` : the printable characters of ASCII are simple.
* `clusters_of_simple` : the clusters of a simple text are its characters.
* `styledClusters_of_simple`, `symbols_of_simple` : so are those of a line of simple texts.
* `Datum.simple_fixed` : decimal numerals are simple.
-/

namespace ShaperDash

/-- The character joins no other one and takes one column. -/
def Simple (c : Char) : Prop := joining c = .other ∧ columns c = 1

instance (c : Char) : Decidable (Simple c) :=
  inferInstanceAs (Decidable (joining c = .other ∧ columns c = 1))

/-- All characters of the text are simple. -/
def SimpleText (s : String) : Prop := ∀ c ∈ s.toList, Simple c

instance (s : String) : Decidable (SimpleText s) := List.decidableBAll Simple s.toList

/-! ### Characters -/

theorem simple_of_ascii {c : Char} (h : ' ' ≤ c) (h' : c ≤ '~') : Simple c := by
  have hall : ∀ n < 127, 32 ≤ n → Simple (Char.ofNat n) := by decide +kernel
  have hc := hall c.toNat (Nat.lt_succ_of_le h') h
  rwa [Char.ofNat_toNat] at hc

theorem simple_of_isDigit {c : Char} (h : c.isDigit = true) : Simple c := by
  simp only [Char.isDigit, Bool.and_eq_true, decide_eq_true_eq] at h
  refine simple_of_ascii ?_ ?_
  · exact Nat.le_trans (by decide) h.1
  · exact Nat.le_trans h.2 (by decide)

/-! ### Clusters -/

theorem clustersAfter_of_simple {cs : List Char} (h : ∀ c ∈ cs, Simple c) {e : ClusterEnd}
    (he : e.joins .other = false) : clustersAfter e cs = ([], cs.map fun c => [c]) := by
  induction cs generalizing e with
  | nil => rfl
  | cons c cs ih =>
    obtain ⟨hc, hcs⟩ := List.forall_mem_cons.1 h
    have hnext : (e.push .other).joins .other = false := rfl
    simp [clustersAfter, hc.1, he, ih hcs hnext]

theorem clusters_of_simple {cs : List Char} (h : ∀ c ∈ cs, Simple c) :
    clusters cs = cs.map fun c => [c] := by
  rw [clusters, clustersAfter_of_simple h (ClusterEnd.start_joins _)]

/-- A line of simple texts is drawn character by character. -/
theorem styledClusters_of_simple {spans : List Span} (h : ∀ s ∈ spans, SimpleText s.text) :
    styledClusters spans =
      spans.flatMap fun s => s.text.toList.map fun c => ([c], s.style) := by
  refine List.flatMap_congr fun s hs => ?_
  have hends : (s.text.toList.map fun c => [c]).filter (· ≠ ['\n']) =
      s.text.toList.map fun c => [c] := by
    rw [List.filter_eq_self]
    intro l hl
    obtain ⟨c, hc, rfl⟩ := List.mem_map.1 hl
    have hsimple := h s hs c hc
    have hne : c ≠ '\n' := by
      rintro rfl
      exact absurd hsimple (by decide)
    simpa using hne
  rw [Span.clusters, clusters_of_simple (h s hs), hends, List.map_map]
  rfl

/-- The characters of spans, one behind the other. -/
def characters (spans : List Span) : List Char := spans.flatMap fun s => s.text.toList

theorem symbols_of_simple {spans : List Span} (h : ∀ s ∈ spans, SimpleText s.text) :
    (styledClusters spans).map Prod.fst = (characters spans).map fun c => [c] := by
  rw [styledClusters_of_simple h, characters, List.map_flatMap, List.map_flatMap]
  simp only [List.map_map]
  rfl

theorem length_styledClusters {spans : List Span} (h : ∀ s ∈ spans, SimpleText s.text) :
    (styledClusters spans).length = (characters spans).length := by
  simpa using congrArg List.length (symbols_of_simple h)

/-- Each cluster of a line of simple texts takes one column. -/
theorem textColumns_of_simple {spans : List Span} (h : ∀ s ∈ spans, SimpleText s.text) :
    ∀ p ∈ styledClusters spans, textColumns p.1 = 1 := by
  rw [styledClusters_of_simple h]
  intro p hp
  obtain ⟨s, hs, hp⟩ := List.mem_flatMap.1 hp
  obtain ⟨c, hc, rfl⟩ := List.mem_map.1 hp
  rw [textColumns_singleton]
  exact (h s hs c hc).2

/-! ### Texts -/

theorem simpleText_append {s t : String} (hs : SimpleText s) (ht : SimpleText t) :
    SimpleText (s ++ t) := by
  intro c hc
  rw [String.toList_append, List.mem_append] at hc
  exact hc.elim (hs c) (ht c)

theorem simpleText_replicate {c : Char} (hc : Simple c) (n : Nat) :
    SimpleText (String.ofList (List.replicate n c)) := by
  intro c' hc'
  rw [String.toList_ofList] at hc'
  rwa [List.eq_of_mem_replicate hc']

theorem simpleText_padRight (n : Nat) {s : String} (hs : SimpleText s) :
    SimpleText (padRight n s) :=
  simpleText_append hs (simpleText_replicate (by decide) _)

theorem simpleText_padLeft (n : Nat) {s : String} (hs : SimpleText s) : SimpleText (padLeft n s) :=
  simpleText_append (simpleText_replicate (by decide) _) hs

theorem simple_digitsOf (n : Nat) : ∀ c ∈ digitsOf n, Simple c := fun _ hc =>
  simple_of_isDigit (Nat.isDigit_of_mem_toDigits (by decide) (by decide) hc)

theorem simpleText_toString (n : Nat) : SimpleText (toString n) := by
  intro c hc
  rw [show toString n = n.repr from rfl, Nat.toList_repr] at hc
  exact simple_digitsOf n c hc

theorem Datum.simple_fixed (d : Datum) (places : Nat) : SimpleText (d.fixed places) := by
  have hsign : ∀ s, ∀ c ∈ sign s, Simple c := by
    intro s c hc
    cases s with
    | false => exact absurd hc List.not_mem_nil
    | true =>
      obtain rfl := List.mem_singleton.1 hc
      decide
  cases d with
  | nan => exact (by decide : SimpleText "NaN")
  | infinite s =>
    have hword : ∀ s, SimpleText (String.ofList (sign s ++ ['i', 'n', 'f'])) := by decide
    exact hword s
  | finite s m e =>
    intro c hc
    simp only [fixed, String.toList_ofList, zeroPadded, List.mem_append, List.mem_cons] at hc
    rcases hc with (hc | hc) | rfl | hc | hc
    · exact hsign s c hc
    · exact simple_digitsOf _ c hc
    · decide
    · rw [List.eq_of_mem_replicate hc]
      decide
    · exact simple_digitsOf _ c hc

end ShaperDash
