import ShaperDash.Proofs.Json.Places
import ShaperDash.Proofs.Records
import ShaperDash.Proofs.Throughput.Rates

/-!
# Whole numbers are taken as they are

A status has whole numbers in its host counts, up to 32 bits, and in the rates of its hosts, up to
64; settings have three, up to 64.  Whatever else a document says, and whichever spelling its
records have, such a place takes the literals of natural numbers up to its limit and no other
numbers, and what is held then is the number of the literal.

* `Status.NumberAt`, `Config.NumberAt` : the places of whole numbers.
* `Status.NumberAt.readsAt`, `Config.NumberAt.readsAt` : what stands there is read as one.
* `integers_exact` : **no whole number wraps, is rounded or cut.**
-/

namespace ShaperDash

open Json

/-! ### The places -/

/-- The pair with a value for a direction; the other direction has `w`. -/
def Direction.pairOf (v w : Value) : Direction → Value
  | .down => .list [v, w]
  | .up => .list [w, v]

/-- The two lists of hosts in a status. -/
inductive Ranking
  | traffic
  | roundTrip
  deriving DecidableEq, Repr

namespace Ranking

def name : Ranking → String
  | .traffic => "top_downloaders"
  | .roundTrip => "worst_rtt"

def hosts : Ranking → Status → List HostStats
  | .traffic, s => s.topDownloaders
  | .roundTrip, s => s.worstRoundTrips

end Ranking

/-- The places of whole numbers in a status, with the greatest number and where the status holds it:
the two host counts, and both rates of any host in either list. -/
inductive Status.NumberAt : (Value → Value) → Nat → (Status → Option Nat) → Prop
  | shaped {counts : Value → Value} (w : Value) : record.GivesAt "host_counts" counts →
      NumberAt (fun v => counts (.list [v, w])) (UInt32.size - 1)
        fun s => some s.hostCounts.shaped.toNat
  | unknown {counts : Value → Value} (w : Value) : record.GivesAt "host_counts" counts →
      NumberAt (fun v => counts (.list [w, v])) (UInt32.size - 1)
        fun s => some s.hostCounts.unknown.toNat
  | rate (r : Ranking) (dir : Direction) {hosts host : Value → Value} (before after : List Value)
      (w : Value) : record.GivesAt r.name hosts →
      HostStats.record.GivesAt "bits_per_second" host →
      NumberAt (fun v => hosts (.list (before ++ host (dir.pairOf v w) :: after)))
        (UInt64.size - 1)
        fun s => (r.hosts s)[before.length]?.map fun h => (dir.rate h.rates).toNat

/-- The places of whole numbers in settings, and the setting that holds each. -/
inductive Config.NumberAt : (Value → Value) → (Config → UInt64) → Prop
  | tickMillis {place : Value → Value} : record.GivesAt "tick_ms" place →
      NumberAt place (·.tickMillis)
  | statusPollSeconds {place : Value → Value} : record.GivesAt "status_poll_secs" place →
      NumberAt place (·.statusPollSeconds)
  | historyLength {place : Value → Value} : record.GivesAt "history_len" place →
      NumberAt place (·.historyLength)

/-! ### Reading -/

/-- The rate of a direction, read at the place of the rates of a host. -/
theorem HostStats.rate_readsAt (dir : Direction) (w : Value) {host : Value → Value}
    (h : record.GivesAt "bits_per_second" host) :
    ReadsAt meaning.value (fun v => host (dir.pairOf v w)) (Value.natural? (UInt64.size - 1))
      fun s => some (dir.rate s.rates).toNat := by
  have hrates : ReadsAt meaning.value host (Value.pair? Value.word64? Value.word64?)
      fun s => some (s.rates.down, s.rates.up) :=
    meaning.readsAt (by decide) h (fun _ => rfl) fun _ _ => rfl
  cases dir with
  | down => exact (hrates.comp (.first w)).comp .word64
  | up => exact (hrates.comp (.second w)).comp .word64

/-- The hosts of a list, read at the place of that list in a status. -/
theorem Status.hosts_readsAt (r : Ranking) {hosts : Value → Value}
    (h : record.GivesAt r.name hosts) :
    ReadsAt meaning.value hosts (Value.list? HostStats.meaning.value)
      fun s => some (r.hosts s) := by
  cases r with
  | traffic => exact meaning.readsAt (by decide) h (fun _ => rfl) fun _ _ => rfl
  | roundTrip => exact meaning.readsAt (by decide) h (fun _ => rfl) fun _ _ => rfl

theorem Status.hostCounts_readsAt {counts : Value → Value}
    (h : record.GivesAt "host_counts" counts) :
    ReadsAt meaning.value counts HostCounts.value? fun s => some s.hostCounts :=
  meaning.readsAt (by decide) h (fun _ => rfl) fun _ _ => rfl

/-- What stands at the place of a whole number is read as one. -/
theorem Status.NumberAt.readsAt {place : Value → Value} {limit : Nat} {get : Status → Option Nat}
    (h : NumberAt place limit get) :
    ReadsAt meaning.value place (Value.natural? limit) get := by
  cases h with
  | shaped w hcounts =>
    have hpair : ReadsAt HostCounts.value? (fun v => .list [v, w]) Value.word32?
        fun c => some c.shaped := (ReadsAt.first w).map fun _ => rfl
    exact ((hostCounts_readsAt hcounts).comp hpair).comp .word32
  | unknown w hcounts =>
    have hpair : ReadsAt HostCounts.value? (fun v => .list [w, v]) Value.word32?
        fun c => some c.unknown := (ReadsAt.second w).map fun _ => rfl
    exact ((hostCounts_readsAt hcounts).comp hpair).comp .word32
  | rate r dir before after w hhosts hhost =>
    have hlist := (hosts_readsAt r hhosts).comp (.element before after)
    have hrate := hlist.comp (HostStats.rate_readsAt dir w hhost)
    have hget : ∀ s, ((some (r.hosts s)).bind fun hs => hs[before.length]?).bind
        (fun h => some (dir.rate h.rates).toNat) =
          (r.hosts s)[before.length]?.map fun h => (dir.rate h.rates).toNat := by
      intro s
      rw [Option.bind_some, Option.map_eq_bind]
      rfl
    simpa only [hget] using hrate

theorem Config.NumberAt.readsAt {place : Value → Value} {get : Config → UInt64}
    (h : NumberAt place get) :
    ReadsAt meaning.value place (Value.natural? (UInt64.size - 1))
      fun c => some (get c).toNat := by
  have hfield : ReadsAt meaning.value place Value.word64? fun c => some (get c) := by
    cases h with
    | tickMillis h => exact meaning.readsAt (by decide) h (fun _ => rfl) fun _ _ => rfl
    | statusPollSeconds h => exact meaning.readsAt (by decide) h (fun _ => rfl) fun _ _ => rfl
    | historyLength h => exact meaning.readsAt (by decide) h (fun _ => rfl) fun _ _ => rfl
  exact hfield.comp .word64

/-! ### Documents -/

/-- The number of some digits. -/
def wholeNumber (cs : List Char) : Value := .number ⟨false, Json.digitValues cs, [], none⟩

theorem spells_wholeNumber {c : Char} {cs : List Char} (hc : c ≠ '0')
    (hd : (c :: cs).all isDigit = true) : Spells (.value (wholeNumber (c :: cs))) (c :: cs) := by
  have hdigits : SpellsWhole (Json.digitValues (c :: cs)) (c :: cs) :=
    .digits hc ⟨List.cons_ne_nil c cs, List.all_eq_true.1 hd⟩
  have hnumber := SpellsNumeral.positive hdigits .none .none
  rw [List.append_nil, List.append_nil] at hnumber
  exact .number hnumber

/-- An object with one member. -/
theorem spelledBy_member {name : String} {v : Value} {cs : List Char} (document : String)
    (hname : Plain name.toList) (hv : Spells (.value v) cs)
    (hd : document.toList = '{' :: '"' :: (name.toList ++ '"' :: ':' :: (cs ++ ['}']))) :
    (Value.object [(unitsOfName name, v)]).SpelledBy document := by
  have hobject : Spells (.value (.object [(unitsOfName name, v)]))
      ('{' :: ('"' :: (name.toList ++ '"' :: ':' :: (cs ++ [])) ++ ['}'])) :=
    .object (.member .first blanks_nil hname.spellsText blanks_nil blanks_nil hv
      (.noMember blanks_nil))
  apply Spells.spelledBy
  rw [hd]
  simpa using hobject

/-- Host counts, the second of which is one. -/
theorem spells_counts {v : Value} {cs : List Char} (hv : Spells (.value v) cs) :
    Spells (.value (.list [v, wholeNumber ['1']])) ('[' :: (cs ++ [',', '1', ']'])) := by
  have hone : Spells (.value (wholeNumber ['1'])) ['1'] := spells_wholeNumber (by decide) rfl
  have hlist : Spells (.value (.list [v, wholeNumber ['1']]))
      ('[' :: ((cs ++ [',', '1']) ++ [']'])) :=
    .list (.element .first blanks_nil hv (.element (.comma blanks_nil) blanks_nil hone
      (.noElement blanks_nil)))
  simpa using hlist

/-! ### The statement -/

/-- **No whole number wraps, is rounded or cut.**  Where a status or settings have a whole number, a
document that can be decoded at all is decoded with a number there exactly if that is the literal of
a natural number, without sign, fraction and exponent, up to the limit of 32 or 64 bits; and the
number held then is that of the literal. -/
theorem integers_exact :
    (∀ {place : Value → Value} {limit : Nat} {get : Status → Option Nat},
      Status.NumberAt place limit get → TakesWhole Status.decode place limit get) ∧
    ∀ {place : Value → Value} {get : Config → UInt64}, Config.NumberAt place get →
      TakesWhole Config.decode place (UInt64.size - 1) fun c => some (get c).toNat := by
  constructor
  · intro place limit get h
    exact h.readsAt.takesWhole Status.meaning.reader_denotes
  · intro place get h
    exact h.readsAt.takesWhole Config.meaning.reader_denotes

/-- The greatest number of 32 bits is a host count and the next one is not; so it is with 64 bits
and a setting. -/
theorem integers_exact_at_the_ends :
    (∃ s, Status.decode "\x7b\"host_counts\":[4294967295,1]\x7d" = .ok s ∧
      s.hostCounts.shaped.toNat = 4294967295) ∧
    (¬ ∃ s, Status.decode "\x7b\"host_counts\":[4294967296,1]\x7d" = .ok s) ∧
    (∃ c, Config.decode "\x7b\"history_len\":18446744073709551615\x7d" = .ok c ∧
      c.historyLength.toNat = 18446744073709551615) ∧
    ¬ ∃ c, Config.decode "\x7b\"history_len\":18446744073709551616\x7d" = .ok c := by
  have hcounts : Plain "host_counts".toList := by decide
  have hsetting : Plain "history_len".toList := by decide
  have hfive : Spells (.value (wholeNumber ['5'])) ['5'] := spells_wholeNumber (by decide) rfl
  have hlast : Spells (.value (wholeNumber "4294967295".toList)) "4294967295".toList :=
    spells_wholeNumber (by decide) rfl
  have hnext : Spells (.value (wholeNumber "4294967296".toList)) "4294967296".toList :=
    spells_wholeNumber (by decide) rfl
  have hlast' : Spells (.value (wholeNumber "18446744073709551615".toList))
      "18446744073709551615".toList := spells_wholeNumber (by decide) rfl
  have hnext' : Spells (.value (wholeNumber "18446744073709551616".toList))
      "18446744073709551616".toList := spells_wholeNumber (by decide) rfl
  -- both documents can be decoded with a five at the place
  have hstatus : Status.decode "\x7b\"host_counts\":[5,1]\x7d" = .ok ⟨⟨5, 1⟩, false, [], []⟩ :=
    toOption_eq_some_iff.1 (by decide +kernel)
  have hconfig : Config.decode "\x7b\"history_len\":5\x7d" = .ok ⟨1000, .regular, none, 1, 5⟩ :=
    toOption_eq_some_iff.1 (by decide +kernel)
  have hshaped {cs : List Char} (document : String) (h : Spells (.value (wholeNumber cs)) cs)
      (hd : document.toList = "\x7b\"host_counts\":[".toList ++ (cs ++ ",1]\x7d".toList)) :=
    integers_exact.1
      (.shaped (wholeNumber ['1']) (.object [] [] (names_unitsOfName "host_counts")))
      (spelledBy_member _ hcounts (spells_counts hfive) rfl) hstatus
      (spelledBy_member document hcounts (spells_counts h) (by simpa using hd))
  have hlength {cs : List Char} (document : String) (h : Spells (.value (wholeNumber cs)) cs)
      (hd : document.toList = "\x7b\"history_len\":".toList ++ (cs ++ "\x7d".toList)) :=
    integers_exact.2 (.historyLength (.object [] [] (names_unitsOfName "history_len")))
      (spelledBy_member _ hsetting hfive rfl) hconfig
      (spelledBy_member document hsetting h (by simpa using hd))
  obtain ⟨haccepted, hheld⟩ := hshaped "\x7b\"host_counts\":[4294967295,1]\x7d" hlast rfl
  obtain ⟨hrefused, -⟩ := hshaped "\x7b\"host_counts\":[4294967296,1]\x7d" hnext rfl
  obtain ⟨haccepted', hheld'⟩ := hlength "\x7b\"history_len\":18446744073709551615\x7d" hlast' rfl
  obtain ⟨hrefused', -⟩ := hlength "\x7b\"history_len\":18446744073709551616\x7d" hnext' rfl
  obtain ⟨s, hs⟩ := haccepted.2 (by decide)
  obtain ⟨c, hc⟩ := haccepted'.2 (by decide)
  refine ⟨⟨s, hs, Option.some.inj (hheld s hs)⟩, ?_, ⟨c, hc, Option.some.inj (hheld' c hc)⟩, ?_⟩
  · rw [hrefused]
    decide
  · rw [hrefused']
    decide

end ShaperDash
