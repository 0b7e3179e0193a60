import Mathlib.Data.List.Pairwise
import ShaperDash.Config
import ShaperDash.Status
import ShaperDash.Proofs.Json.Spellings

/-!
# The records of the dashboard

* `Setter.set_commute` : values under different names may come in either order.
* `HostStats.meaning`, `Status.meaning`, `Config.meaning` : what the fields of each record say.
* `records_agree` : **each record says the same in either spelling**.
-/

namespace ShaperDash

open Json

theorem Json.Field.of_denotes {α β : Type} {name : String} {required : Bool} {r : Reader β}
    {set : β → α → α} {f : Value → Option β} (h : r.Denotes f) :
    (Field.of name required r set).reader.Denotes fun v => (f v).map set := h.map set

/-! ### Setters -/

/-- The name of a field, what a value says that stands under it, and where that goes. -/
structure Setter (α : Type) where
  name : String
  {content : Type}
  value? : Value → Option content
  put : content → α → α

namespace Setter

variable {α : Type}

/-- The two may put something into a draft in either order. -/
def Independent (s t : Setter α) : Prop := ∀ b c a, s.put b (t.put c a) = t.put c (s.put b a)

instance : Std.Symm (Independent (α := α)) := ⟨fun _ _ h b c a => (h c b a).symm⟩

/-- What a value does that stands under a name. -/
def set (ss : List (Setter α)) (name : String) (v : Value) : Option (α → α) :=
  (ss.find? (·.name = name)).bind fun s => (s.value? v).map s.put

/-- Values under different names change a draft in either order. -/
theorem set_commute {ss : List (Setter α)} (hss : ss.Pairwise Independent) {m n : String}
    {v w : Value} {g h : α → α} (hne : m ≠ n) (hg : set ss m v = some g)
    (hh : set ss n w = some h) (a : α) : g (h a) = h (g a) := by
  obtain ⟨s, hs, hg⟩ := Option.bind_eq_some_iff.1 hg
  obtain ⟨t, ht, hh⟩ := Option.bind_eq_some_iff.1 hh
  obtain ⟨b, -, rfl⟩ := Option.map_eq_some_iff.1 hg
  obtain ⟨c, -, rfl⟩ := Option.map_eq_some_iff.1 hh
  have hm : s.name = m := by simpa using List.find?_some hs
  have hn : t.name = n := by simpa using List.find?_some ht
  have hst : s ≠ t := by
    rintro rfl
    exact hne (hm.symm.trans hn)
  exact hss.forall (List.mem_of_find?_eq_some hs) (List.mem_of_find?_eq_some ht) hst b c a

end Setter

/-! ### Hosts -/

namespace HostStats

/-- What the values of the fields of a host do. -/
def setters : List (Setter HostStats) :=
  [⟨"ip_address", Value.text?, fun a h => { h with address := a }⟩,
   ⟨"bits_per_second", (·.pair? Value.word64? Value.word64?),
     fun (down, up) h => { h with rates := ⟨down, up⟩ }⟩,
   ⟨"median_tcp_rtt", Value.single?, fun r h => { h with roundTrip := r }⟩]

def meaning : record.Meaning where
  set := Setter.set setters
  denotes := by
    intro f hf
    simp only [record, List.mem_cons, List.not_mem_nil, or_false] at hf
    obtain rfl | rfl | rfl := hf
    · exact Field.of_denotes Reader.text_denotes
    · exact Field.of_denotes (Reader.pair_denotes Reader.word64_denotes Reader.word64_denotes)
    · exact Field.of_denotes Reader.single_denotes
  commute := Setter.set_commute (by simp [setters, Setter.Independent])
  nodup := by decide

end HostStats

/-! ### The status -/

/-- The two counts of hosts. -/
def HostCounts.value? (v : Value) : Option HostCounts :=
  (v.pair? Value.word32? Value.word32?).map fun (shaped, unknown) => ⟨shaped, unknown⟩

theorem HostCounts.reader_denotes : HostCounts.reader.Denotes HostCounts.value? :=
  (Reader.pair_denotes Reader.word32_denotes Reader.word32_denotes).map _

namespace Status

/-- What the values of the fields of a status do. -/
def setters : List (Setter Status) :=
  [⟨"host_counts", HostCounts.value?, fun c s => { s with hostCounts := c }⟩,
   ⟨"reload_required", Value.boolean?, fun b s => { s with reloadRequired := b }⟩,
   ⟨"top_downloaders", (·.list? HostStats.meaning.value),
     fun hs s => { s with topDownloaders := hs }⟩,
   ⟨"worst_rtt", (·.list? HostStats.meaning.value),
     fun hs s => { s with worstRoundTrips := hs }⟩]

def meaning : record.Meaning where
  set := Setter.set setters
  denotes := by
    have hosts := Reader.list_denotes HostStats.meaning.reader_denotes
    intro f hf
    simp only [record, List.mem_cons, List.not_mem_nil, or_false] at hf
    obtain rfl | rfl | rfl | rfl := hf
    · exact Field.of_denotes HostCounts.reader_denotes
    · exact Field.of_denotes Reader.boolean_denotes
    · exact Field.of_denotes hosts
    · exact Field.of_denotes hosts
  commute := Setter.set_commute (by simp [setters, Setter.Independent])
  nodup := by decide

end Status

/-! ### Settings -/

/-- What the name of a palette stands for. -/
def Palette.value? : Value → Option Palette :=
  Value.variant? [(Palette.regular.keyword, .regular), (Palette.metaverse.keyword, .metaverse)]

namespace Config

/-- What the values of the settings do. -/
def setters : List (Setter Config) :=
  [⟨"tick_ms", Value.word64?, fun n c => { c with tickMillis := n }⟩,
   ⟨"palette", Palette.value?, fun p c => { c with palette := p }⟩,
   ⟨"status_file", Value.optionalPath?, fun p c => { c with statusFile := p }⟩,
   ⟨"status_poll_secs", Value.word64?, fun n c => { c with statusPollSeconds := n }⟩,
   ⟨"history_len", Value.word64?, fun n c => { c with historyLength := n }⟩]

def meaning : record.Meaning where
  set := Setter.set setters
  denotes := by
    intro f hf
    simp only [record, List.mem_cons, List.not_mem_nil, or_false] at hf
    obtain rfl | rfl | rfl | rfl | rfl := hf
    · exact Field.of_denotes Reader.word64_denotes
    · exact Field.of_denotes (Reader.variant_denotes _)
    · exact Field.of_denotes Reader.optionalPath_denotes
    · exact Field.of_denotes Reader.word64_denotes
    · exact Field.of_denotes Reader.count_denotes
  commute := Setter.set_commute (by simp [setters, Setter.Independent])
  nodup := by decide

end Config

/-- **Each record says the same in either spelling**: as a list of the values of its fields, as far
as they go, and as an object with these values under the names of the fields. -/
theorem records_agree :
    Config.record.SpellingsAgree ∧ Status.record.SpellingsAgree ∧
      HostStats.record.SpellingsAgree :=
  ⟨Config.meaning.spellings_agree (by decide +kernel),
    Status.meaning.spellings_agree (by decide +kernel),
    HostStats.meaning.spellings_agree (by decide +kernel)⟩

example :
    (HostStats.record.reader.decode "[\"a\",[7,8]]").toOption =
      (HostStats.record.reader.decode
        "\x7b\"ip_address\":\"a\",\"bits_per_second\":[7,8]\x7d").toOption := by
  decide +kernel

end ShaperDash
