import Telemetry.Collection

/-!
# Polling the host

One poll samples the host: memory, swap, processor and load become gauges, a random number shows
that the values are fresh, and a counter counts the polls. What the host says is a `Readings`;
`Readings.collect` puts it into a collection.
-/

namespace Telemetry

/-- What is read from the host at one moment. -/
structure Readings where
  totalMemory : Binary64
  usedMemory : Binary64
  freeMemory : Binary64
  availableMemory : Binary64
  totalSwap : Binary64
  usedSwap : Binary64
  /-- The utilization of all processors together. -/
  utilization : Binary64
  /-- The utilization of each processor. -/
  processors : List Binary64
  load1 : Binary64
  load5 : Binary64
  load15 : Binary64
  /-- A random number, at least 0 and below 1. -/
  random : Binary64

namespace Readings

/-- The name of the collector that polls the host. -/
def collectorName : String := "runtime"

/-- The counter of polls. -/
def pollCount : String := "PollCount"

/-- The gauge of a processor; processors are numbered from one. -/
def processorName (index : Nat) : String := "CPUutilization" ++ toString (index + 1)

/-- The gauges of a poll. -/
def gauges (r : Readings) : List (String × Binary64) :=
  [("TotalMemory", r.totalMemory), ("UsedMemory", r.usedMemory), ("FreeMemory", r.freeMemory),
    ("AvailableMemory", r.availableMemory), ("TotalSwap", r.totalSwap), ("UsedSwap", r.usedSwap),
    ("CPUutilization", r.utilization)]
  ++ r.processors.mapIdx (fun index x => (processorName index, x))
  ++ [("LoadAverage1", r.load1), ("LoadAverage5", r.load5), ("LoadAverage15", r.load15),
    ("RandomValue", r.random)]

/-- One poll: every gauge is set and the poll is counted. -/
def collect (r : Readings) (c : Collection) : Collection :=
  (r.gauges.foldl (fun c g => c.set g.1 g.2) c).add pollCount 1

end Readings

end Telemetry
