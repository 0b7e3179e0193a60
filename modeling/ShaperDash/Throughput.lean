import ShaperDash.Number.Binary

/-!
# Throughput

A `Reading` holds the byte counters of all interfaces at one instant.  Two readings give a rate in
each direction, and a `History` keeps the latest rates, oldest first.  Instants are nanoseconds on a
clock that may step back; a time that runs backwards counts as no time.
-/

namespace ShaperDash

/-- A rate, or any other pair of values, down and up. -/
structure Traffic where
  down : UInt64
  up : UInt64
  deriving DecidableEq, Repr

/-- The byte counters of all interfaces at one instant. -/
structure Reading where
  received : UInt64
  transmitted : UInt64
  /-- The interface with the most traffic so far. -/
  busiest : String
  /-- Nanoseconds on the clock. -/
  instant : Nat
  deriving DecidableEq, Repr

/-! ### Readings -/

/-- The byte counters of one interface. -/
structure Interface where
  name : String
  received : UInt64
  transmitted : UInt64
  deriving DecidableEq, Repr

/-- The sum of two counters, or the greatest word if that is less. -/
def addUpTo (m n : UInt64) : UInt64 := UInt64.ofNat (min (m.toNat + n.toNat) (UInt64.size - 1))

namespace Interface

/-- All bytes that went through the interface. -/
def traffic (i : Interface) : UInt64 := addUpTo i.received i.transmitted

/-- The name of the first interface with the most traffic, and its traffic; there is none as long as
nothing went through any of them. -/
def busiest (interfaces : List Interface) : String × UInt64 :=
  interfaces.foldl (fun best i => if best.2 < i.traffic then (i.name, i.traffic) else best)
    ("No Interface", 0)

end Interface

/-- The counters of all interfaces together. -/
def Reading.ofInterfaces (interfaces : List Interface) (instant : Nat) : Reading where
  received := interfaces.foldl (fun n i => addUpTo n i.received) 0
  transmitted := interfaces.foldl (fun n i => addUpTo n i.transmitted) 0
  busiest := (Interface.busiest interfaces).1
  instant := instant

/-! ### Rates -/

/-- A number of nanoseconds as 64-bit seconds: whole seconds and their fraction, added. -/
def secondsOf (nanos : Nat) : Datum :=
  binary64.add (binary64.ofNat (nanos / 1000000000))
    (binary64.div (binary64.ofNat (nanos % 1000000000)) (binary64.ofNat 1000000000))

/-- How much a counter grew; a counter that went back did not grow. -/
def growth (before after : UInt64) : Nat := after.toNat - before.toNat

/-- Bits per second for a number of bytes in a number of seconds, cut to a whole number. -/
def rateOf (bytes : Nat) (seconds : Datum) : UInt64 :=
  let bits := binary64.mul (binary64.ofNat bytes) (binary64.ofNat 8)
  UInt64.ofNat ((binary64.div bits seconds).truncate (UInt64.size - 1))

/-- Bits per second between two readings; none if no time has passed. -/
def bitsPerSecond (before after : Reading) : Traffic :=
  let seconds := secondsOf (after.instant - before.instant)
  if seconds.le (.finite false 0 0) then ⟨0, 0⟩
  else
    ⟨rateOf (growth before.received after.received) seconds,
     rateOf (growth before.transmitted after.transmitted) seconds⟩

/-! ### History -/

/-- The latest rates in each direction, oldest first, and how many of them to keep. -/
structure History where
  download : List UInt64
  upload : List UInt64
  limit : Nat
  deriving DecidableEq, Repr

namespace History

/-- A history of nothing but zeros. -/
def ofLimit (limit : Nat) : History :=
  ⟨List.replicate limit 0, List.replicate limit 0, limit⟩

/-- How many bytes one list can take up, whatever memory there is: a signed word counts them. -/
def maxBytes : Nat := Nat.pow 2 63 - 1

/-- So many zeros, eight bytes each, if one list can hold them. -/
def zeros? (count : Nat) : Option (List UInt64) :=
  if count * 8 ≤ maxBytes then some (List.replicate count 0) else none

/-- A history of nothing but zeros, if both lists can hold them. -/
def ofLimit? (limit : Nat) : Option History := do
  let download ← zeros? limit
  let upload ← zeros? limit
  return ⟨download, upload, limit⟩

/-- The last `n` elements. -/
def keepLast (n : Nat) (xs : List UInt64) : List UInt64 := xs.drop (xs.length - n)

/-- Adds a rate and forgets the oldest ones beyond the limit. -/
def push (h : History) (t : Traffic) : History :=
  { h with
    download := keepLast h.limit (h.download ++ [t.down])
    upload := keepLast h.limit (h.upload ++ [t.up]) }

end History

end ShaperDash
