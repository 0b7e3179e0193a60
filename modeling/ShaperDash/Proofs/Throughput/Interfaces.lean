import Mathlib.Data.List.Induction
import Mathlib.Tactic.SplitIfs
import ShaperDash.Throughput

/-!
# Counters of interfaces

A reading takes the counters of all interfaces together and names the busiest of them.

* `Reading.toNat_received_ofInterfaces`, `Reading.toNat_transmitted_ofInterfaces` : **counters are
  added up to the greatest word**, in whatever order the interfaces come.
* `Interface.busiest_cases` : **the busiest interface** is the first of those with the most traffic.
-/

namespace ShaperDash

/-! ### Sums -/

theorem toNat_addUpTo (m n : UInt64) :
    (addUpTo m n).toNat = min (m.toNat + n.toNat) (UInt64.size - 1) := by
  rw [addUpTo, UInt64.toNat_ofNat_of_lt']
  have : 0 < UInt64.size := by decide
  omega

theorem toNat_foldl_addUpTo (f : Interface → UInt64) (l : List Interface) (n : UInt64) :
    (l.foldl (fun n i => addUpTo n (f i)) n).toNat =
      min (n.toNat + l.foldr (fun i m => (f i).toNat + m) 0) (UInt64.size - 1) := by
  induction l generalizing n with
  | nil =>
    have hn : n.toNat < UInt64.size := n.toNat_lt
    simp only [List.foldl_nil, List.foldr_nil]
    omega
  | cons i l ih =>
    rw [List.foldl_cons, List.foldr_cons, ih, toNat_addUpTo]
    -- a sum that is cut once may be cut again
    omega

namespace Reading

variable (l : List Interface) (instant : Nat)

theorem toNat_received_ofInterfaces : (ofInterfaces l instant).received.toNat =
    min (l.foldr (fun i m => i.received.toNat + m) 0) (UInt64.size - 1) := by
  have hsum := toNat_foldl_addUpTo (·.received) l 0
  rwa [show (0 : UInt64).toNat = 0 from rfl, Nat.zero_add] at hsum

theorem toNat_transmitted_ofInterfaces : (ofInterfaces l instant).transmitted.toNat =
    min (l.foldr (fun i m => i.transmitted.toNat + m) 0) (UInt64.size - 1) := by
  have hsum := toNat_foldl_addUpTo (·.transmitted) l 0
  rwa [show (0 : UInt64).toNat = 0 from rfl, Nat.zero_add] at hsum

end Reading

/-! ### The busiest interface -/

namespace Interface

theorem busiest_concat (l : List Interface) (i : Interface) :
    busiest (l ++ [i]) = if (busiest l).2 < i.traffic then (i.name, i.traffic) else busiest l := by
  rw [busiest, List.foldl_append]
  rfl

/-- **The busiest interface** is the first of those with the most traffic, if there was any. -/
theorem busiest_cases (l : List Interface) :
    (busiest l = ("No Interface", 0) ∧ ∀ i ∈ l, i.traffic = 0) ∨
      ∃ before i after, l = before ++ i :: after ∧ busiest l = (i.name, i.traffic) ∧
        (∀ j ∈ before, j.traffic < i.traffic) ∧ ∀ j ∈ after, j.traffic ≤ i.traffic := by
  induction l using List.reverseRecOn with
  | nil => exact .inl ⟨rfl, List.forall_mem_nil _⟩
  | append_singleton l k ih =>
    rw [busiest_concat]
    obtain ⟨hnone, hzero⟩ | ⟨before, i, after, rfl, hbest, hbefore, hafter⟩ := ih
    · rw [hnone]
      split_ifs with hlt
      · exact .inr ⟨l, k, [], rfl, rfl, fun j hj => hzero j hj ▸ hlt, List.forall_mem_nil _⟩
      · have hk : k.traffic = 0 := UInt64.le_antisymm (UInt64.not_lt.1 hlt) UInt64.zero_le
        refine .inl ⟨rfl, fun j hj => ?_⟩
        obtain hj | hj := List.mem_append.1 hj
        · exact hzero j hj
        · obtain rfl := List.mem_singleton.1 hj
          exact hk
    · rw [hbest]
      split_ifs with hlt
      · refine .inr ⟨before ++ i :: after, k, [], rfl, rfl, fun j hj => ?_, List.forall_mem_nil _⟩
        obtain hj | hj := List.mem_append.1 hj
        · exact UInt64.lt_trans (hbefore j hj) hlt
        · obtain rfl | hj := List.mem_cons.1 hj
          · exact hlt
          · exact UInt64.lt_of_le_of_lt (hafter j hj) hlt
      · refine .inr ⟨before, i, after ++ [k], by simp, rfl, hbefore, fun j hj => ?_⟩
        obtain hj | hj := List.mem_append.1 hj
        · exact hafter j hj
        · obtain rfl := List.mem_singleton.1 hj
          exact UInt64.not_lt.1 hlt

end Interface

example : (Reading.ofInterfaces [⟨"lo", 3, 3⟩, ⟨"eth0", 5, 2⟩, ⟨"eth1", 2, 5⟩] 7) =
    ⟨10, 10, "eth0", 7⟩ := by decide

end ShaperDash
