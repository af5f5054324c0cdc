import Telemetry.Proofs.Server.Ingestion
import Telemetry.Proofs.Snapshot.Listing
import Telemetry.Proofs.Store.History

/-!
# A store exported and imported

What a server answers when it is asked for everything can be sent to another server. Its listing
adds to every counter the sum that is stored, and replaces every gauge by itself. So an empty store
becomes the one that was exported, and the store itself has its counters doubled, if they can be
(`export_import_rebuilds`).
-/

namespace Telemetry

namespace Snapshot

variable {s next : Snapshot} {name : String}

/-! ## Sent to itself -/

/-- Every counter can be doubled. -/
def CanDouble (s : Snapshot) : Prop := ∀ name n, s.count? name = some n → FitsInt64 (2 * n)

/-- A snapshot whose counters can be doubled takes its own listing, and one that does not names a
counter that cannot. -/
theorem applyAll_metrics_cases (s : Snapshot) :
    (∃ next, s.applyAll s.metrics = .ok next ∧ s.CanDouble) ∨
      ∃ name n, s.applyAll s.metrics = .error (.counterOverflow name) ∧
        s.count? name = some n ∧ ¬ FitsInt64 (2 * n) := by
  cases happly : s.applyAll s.metrics with
  | ok next =>
    refine .inl ⟨next, rfl, fun name n hn => ?_⟩
    have hfits := applyAll_isOk_iff.1 ⟨next, happly⟩ s.metrics List.prefix_rfl name
    rwa [deltaSum_of_entriesOf (entriesOf_metrics s name .counter), hn, Option.getD_some,
      ← Int.two_mul] at hfits
  | error e =>
    obtain ⟨before, m, hfirst, rfl⟩ := applyAll_eq_error_iff.1 happly
    have hfits := hfirst.atFault.overflows
    -- A name is listed once, so a part of the listing adds nothing to its counter or all of it.
    obtain hzero | hcount := deltaSum_of_prefix hfirst.begins m.id
    · rw [hzero, Int.add_zero] at hfits
      exact absurd (fitsInt64_count? s m.id) hfits
    · rw [hcount, ← Int.two_mul] at hfits
      cases hn : s.count? m.id with
      | none =>
        rw [hn] at hfits
        exact absurd (fitsInt64_toInt 0) hfits
      | some n =>
        rw [hn] at hfits
        exact .inr ⟨m.id, n, rfl, hn, hfits⟩

/-- A snapshot that takes its own listing has its counters doubled, and its gauges as they were. -/
theorem doubled_of_applyAll (h : s.applyAll s.metrics = .ok next) :
    (∀ name, next.count? name = (s.count? name).map (2 * ·)) ∧ next.gauges = s.gauges := by
  have hgrows := grows_of_applyAll h
  refine ⟨fun name => ?_, Series.ext fun name => ?_⟩
  · rw [hgrows.count, countAfter_metrics]
    cases s.count? name with
    | none => rfl
    | some n => simp [Int.two_mul]
  · rw [hgrows.gauge, gaugeAfter_metrics]
    cases s.gauges.get? name <;> rfl

end Snapshot

/-! ## Over the service -/

/-- What becomes of a store that is sent its own listing: every counter is doubled and every gauge
is as it was, or a counter that cannot be doubled is named and nothing has changed. -/
inductive Doubling (s : Snapshot) (size : Nat) : Except RpcError Rpc.Reply × Snapshot → Prop
  | done {next : Snapshot} (hdouble : s.CanDouble)
      (hcount : ∀ name, next.count? name = (s.count? name).map (2 * ·))
      (hgauges : next.gauges = s.gauges) :
      Doubling s size (.ok (.confirmation (Api.storedText size)), next)
  | refused {name : String} {n : Int} (hn : s.count? name = some n)
      (hfits : ¬ FitsInt64 (2 * n)) :
      Doubling s size (.error (Rpc.invalid (.counterOverflow name)), s)

/-- A list of accepted metrics, sent as messages. -/
theorem Rpc.serve_createMetrics_ofMetric {s : Snapshot} {metrics : List Metric}
    (hvalid : ∀ m ∈ metrics, m.validate = .ok ()) :
    serve s (.createMetrics (metrics.map WireMetric.ofMetric)) =
      match s.applyAll metrics with
      | .ok next => (.ok (.confirmation (Api.storedText metrics.length)), next)
      | .error e => (.error (invalid e), s) := by
  have hall : Memory.createAll s metrics = s.applyAll metrics := by
    unfold Memory.createAll
    rw [validateAll_eq_ok_iff.2 hvalid]
    rfl
  simp only [serve, createMetrics_ofMetric, hall]
  cases s.applyAll metrics <;> rfl

/-- **Export and import.** Whatever has been written to a store, the list of all its metrics is
accepted by an empty store and rebuilds it there, gauges bit for bit; the store itself is doubled by
it or refuses it. -/
theorem export_import_rebuilds (writes : List Write) :
    let s := (History.run Snapshot.empty writes).store
    ∃ messages, Rpc.serve s .getMetrics = (.ok (.metrics messages), s) ∧
      Rpc.serve Snapshot.empty (.createMetrics messages)
        = (.ok (.confirmation (Api.storedText messages.length)), s) ∧
      Doubling s messages.length (Rpc.serve s (.createMetrics messages)) := by
  intro s
  have hvalid : ∀ m ∈ s.metrics, m.validate = .ok () := fun m hm =>
    (History.sound_run writes).reflects.valid _ _ _ (Snapshot.mem_metrics_iff.1 hm)
  refine ⟨s.metrics.map WireMetric.ofMetric, rfl, ?_, ?_⟩
  · rw [Rpc.serve_createMetrics_ofMetric hvalid, Snapshot.applyAll_empty_metrics, List.length_map]
  · rw [Rpc.serve_createMetrics_ofMetric hvalid, List.length_map]
    -- The second import adds everything once more, as far as that fits.
    obtain ⟨next, happly, hdouble⟩ | ⟨name, n, happly, hn, hfits⟩ :=
      Snapshot.applyAll_metrics_cases s
    · obtain ⟨hcount, hgauges⟩ := Snapshot.doubled_of_applyAll happly
      rw [happly]
      exact .done hdouble hcount hgauges
    · rw [happly]
      exact .refused hn hfits

/-- A counter at half of the range cannot be doubled: its store is rebuilt, and refuses itself. -/
theorem export_import_rebuilds_halfFull :
    let writes := [Write.batch [Metric.counter "c" 4611686018427387904,
      Metric.gauge "g" Binary64.zero], .one (Metric.counter "d" (-1))]
    let s := (History.run Snapshot.empty writes).store
    s.isEmpty = false ∧
      ∃ messages, Rpc.serve s .getMetrics = (.ok (.metrics messages), s) ∧
        Rpc.serve Snapshot.empty (.createMetrics messages)
          = (.ok (.confirmation (Api.storedText messages.length)), s) ∧
        Rpc.serve s (.createMetrics messages)
          = (.error (Rpc.invalid (.counterOverflow "c")), s) := by
  intro writes s
  obtain ⟨messages, hexport, himport, hdoubling⟩ := export_import_rebuilds writes
  refine ⟨by decide +kernel, messages, hexport, himport, ?_⟩
  -- The messages are the ones that the general statement speaks of.
  have hlisting : messages = s.metrics.map WireMetric.ofMetric :=
    (Rpc.Reply.metrics.inj (Except.ok.inj (Prod.ext_iff.1 hexport).1)).symm
  have hrefused : (Rpc.serve s (.createMetrics messages)).1
      = .error (Rpc.invalid (.counterOverflow "c")) := by
    rw [hlisting]
    decide +kernel
  generalize houtcome : Rpc.serve s (.createMetrics messages) = outcome at hdoubling hrefused
  cases hdoubling with
  | done _ _ _ => cases hrefused
  | refused _ _ => exact Prod.ext hrefused rfl

end Telemetry
