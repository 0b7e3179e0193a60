import ShaperDash.Json.Record
import ShaperDash.Scale
import ShaperDash.Throughput

/-!
# The status of the shaper

The shaper exports its status as a document: how many hosts it knows, whether it wants a reload, and
two lists of hosts, those with the most traffic and those with the longest round trips.
-/

namespace ShaperDash

open Json

/-- How many hosts are shaped, and how many were seen that match no shaped one. -/
structure HostCounts where
  shaped : UInt32
  unknown : UInt32
  deriving DecidableEq, Repr

/-- A host with its rates and its median round trip in milliseconds. -/
structure HostStats where
  address : String
  rates : Traffic
  roundTrip : Datum
  deriving DecidableEq, Repr

/-- One export of the shaper. -/
structure Status where
  hostCounts : HostCounts
  reloadRequired : Bool
  topDownloaders : List HostStats
  worstRoundTrips : List HostStats
  deriving DecidableEq, Repr

/-! ### Reading -/

/-- The number zero of 32 bits. -/
def zeroSingle : Datum := .finite false 0 binary32.minExponent

namespace HostCounts

def reader : Reader HostCounts :=
  (Reader.word32.pair Reader.word32).map fun (shaped, unknown) => ⟨shaped, unknown⟩

end HostCounts

namespace HostStats

def record : Record HostStats where
  name := "HostStats"
  draft := ⟨"", ⟨0, 0⟩, zeroSingle⟩
  fields :=
    [.of "ip_address" true .text fun v h => { h with address := v },
     .of "bits_per_second" true (Reader.word64.pair Reader.word64)
       fun (down, up) h => { h with rates := ⟨down, up⟩ },
     .of "median_tcp_rtt" false .single fun v h => { h with roundTrip := v }]

end HostStats

namespace Status

def record : Record Status where
  name := "DashboardStatus"
  draft := ⟨⟨0, 0⟩, false, [], []⟩
  fields :=
    [.of "host_counts" true HostCounts.reader fun v s => { s with hostCounts := v },
     .of "reload_required" false .boolean fun v s => { s with reloadRequired := v },
     .of "top_downloaders" false (.list HostStats.record.reader)
       fun v s => { s with topDownloaders := v },
     .of "worst_rtt" false (.list HostStats.record.reader)
       fun v s => { s with worstRoundTrips := v }]

/-- The status that a document spells. -/
def decode (document : String) : Except DecodeError Status := record.reader.decode document

end Status

/-! ### Showing -/

/-- A reload is asked for only by a status that has been read. -/
def reloadWarning : Option Status → Bool
  | some s => s.reloadRequired
  | none => false

/-- The host counts in words. -/
def HostCounts.label (c : HostCounts) : String :=
  scaleCount c.shaped.toNat ++ " shaped, " ++ scaleCount c.unknown.toNat ++ " unknown"

end ShaperDash
