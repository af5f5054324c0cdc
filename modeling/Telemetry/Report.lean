import Telemetry.Collection
import Telemetry.Report.Transport
import Telemetry.Text

/-!
# Reports

A report publishes what a collection holds, metric by metric, and then takes what was delivered off
the collection. These are separate steps: `Report.start` fixes the metrics, `Report.record` notes
how one publication ended, and `Report.settle` takes the delivered metrics off. Other reports and
pollers may act on the collection between any two of them.

`Report.process` is one report that runs through all its steps. How a metric is published is a
parameter: a function that may change the state of the world, in which the collection lies.

`Report.World` is what a report acts on while others go on gathering into the collection.
-/

namespace Telemetry

/-- A report under way. -/
structure Report where
  /-- The metrics still to be published, next first. -/
  waiting : List Metric
  /-- The metrics that were published, in this order. -/
  delivered : List Metric
  /-- The number of metrics that could not be published. -/
  failed : Nat
deriving DecidableEq

namespace Report

/-- A report on what is gathered at this moment. -/
def start (c : Collection) : Report := ⟨c.metrics, [], 0⟩

/-- The next metric was published, or not. -/
def record (r : Report) (published : Bool) : Report :=
  match r.waiting with
  | [] => r
  | m :: rest =>
    if published then ⟨rest, r.delivered ++ [m], r.failed⟩ else ⟨rest, r.delivered, r.failed + 1⟩

/-- What was delivered is taken off the collection. -/
def settle (r : Report) (c : Collection) : Collection := c.settle r.delivered

/-- Metrics are published one after another; that one fails does not stop the others. -/
def publishAll {σ : Type} (publish : σ → Metric → Except ReportError Unit × σ) (r : Report)
    (world : σ) :
    (metrics : List Metric) → Report × σ
  | [] => (r, world)
  | m :: rest =>
    let (outcome, next) := publish world m
    publishAll publish (r.record outcome.toBool) next rest

/-- A report up to its last publication. An address that is blank fails before anything is
published. -/
def send {σ : Type} (collection : σ → Collection)
    (publish : σ → Metric → Except ReportError Unit × σ)
    (address : String) (world : σ) : Except ReportError Report × σ :=
  if Text.isAllBlank address then (.error (.invalidAddress address), world)
  else
    let (report, next) :=
      publishAll publish (start (collection world)) world (collection world).metrics
    (.ok report, next)

/-- The name of the task that makes a report. -/
def taskName : String := "send-metrics"

/-- A whole report: what was delivered is taken off the collection at the end. -/
def process {σ : Type} (collection : σ → Collection) (update : (Collection → Collection) → σ → σ)
    (publish : σ → Metric → Except ReportError Unit × σ) (address : String) (world : σ) :
    Except ReportError Unit × σ :=
  match send collection publish address world with
  | (.ok report, next) => (.ok (), update report.settle next)
  | (.error e, next) => (.error e, next)

end Report

/-! ## A report while others gather

A report takes time, and others go on gathering into the collection that it reports. Here the world
of a report is that collection and what has been published so far. A `Publication` says what others
change while a metric is published and how the publication ends; both may be anything, and what is
changed may be what is being reported.
-/

namespace Collection

/-- What others do to a collection. -/
inductive Change
  | add (name : String) (delta : Int64)
  | set (name : String) (value : Binary64)
deriving DecidableEq

/-- A change carried out. -/
def change (c : Collection) : Change → Collection
  | .add name delta => c.add name delta
  | .set name value => c.set name value

/-- Changes one after another. -/
def changeAll (c : Collection) (changes : List Change) : Collection := changes.foldl change c

end Collection

/-- What happens while a metric is published: what others change, and how it ends. A collection
lists each of its metrics once, so a function of the metric says it of every publication of a report
on its own. -/
structure Publication where
  changes : List Collection.Change
  outcome : Except ReportError Unit

namespace Report

/-- The collection that is reported, and the addresses and metrics of the publications so far. -/
structure World where
  collection : Collection
  published : List (String × Metric)

namespace World

/-- A metric is published to an address. -/
def publish (during : Metric → Publication) (address : String) (w : World) (m : Metric) :
    Except ReportError Unit × World :=
  ((during m).outcome,
    ⟨w.collection.changeAll (during m).changes, w.published ++ [(address, m)]⟩)

/-- The collection is updated once others have made their last changes to it. -/
def update (after : List Collection.Change) (f : Collection → Collection) (w : World) : World :=
  { w with collection := f (w.collection.changeAll after) }

end World

/-- The metrics of a list whose publication succeeds. -/
def succeeding (during : Metric → Publication) (metrics : List Metric) : List Metric :=
  metrics.filter fun m => (during m).outcome.toBool

/-- The metrics of a list whose publication fails. -/
def failing (during : Metric → Publication) (metrics : List Metric) : List Metric :=
  metrics.filter fun m => !(during m).outcome.toBool

/-- Everything that others change while a list of metrics is published. -/
def changesDuring (during : Metric → Publication) (metrics : List Metric) :
    List Collection.Change :=
  metrics.flatMap fun m => (during m).changes

/-- A report of a collection up to its last publication, while others gather. -/
def sendAmid (during : Metric → Publication) (address : String) (c : Collection) :
    Except ReportError Report × World :=
  send World.collection (World.publish during address) address ⟨c, []⟩

/-- A whole report of a collection, while others gather; `after` are the changes between the last
publication and the end. -/
def processAmid (during : Metric → Publication) (after : List Collection.Change)
    (address : String) (c : Collection) : Except ReportError Unit × World :=
  process World.collection (World.update after) (World.publish during address) address ⟨c, []⟩

end Report

end Telemetry
