import Telemetry.Proofs.Number.Reading
import Telemetry.Proofs.Number.Shortest
import Telemetry.Proofs.Snapshot.Json
import Telemetry.Proofs.Store.Disk
import Telemetry.Proofs.Store.History

/-!
# The snapshot in its file

What a save writes is loaded again, and until a save has worked the file is as it was
(`Snapshot.save_cases`, `Snapshot.load_of_keeps`). A write to a store with a snapshot file is one to
the store in memory, with a save behind it if it is accepted (`SnapshotFile.performOn_cases`).

In whatever order the members of the text stand, the same snapshot is loaded, bit for bit
(`snapshot_is_loaded_as_saved`).
-/

namespace Telemetry

/-- The file keeps the snapshot; an empty one needs no file. -/
def Disk.Keeps (d : Disk) (p : Path) (s : Snapshot) : Prop :=
  d.Holds p s.toJson.toUTF8 ∨ s = Snapshot.empty ∧ ∀ bytes, d.read p ≠ .ok bytes

namespace Snapshot

variable {s : Snapshot} {d next : Disk} {p : Path}

/-- The text of a snapshot starts with a brace, so it is not blank. -/
theorem not_blank_of_isWrittenAs {bytes : ByteArray} (h : s.IsWrittenAs bytes) :
    bytes.data.all isBlankByte = false := by
  obtain ⟨counters, gauges, -, -, rfl⟩ := h
  rw [← Array.all_toList, Json.toList_toUTF8, toList_jsonOf]
  rfl

/-- A file with the text of a snapshot is read as the snapshot. -/
theorem load_of_isWrittenAs {bytes : ByteArray} (hfinite : s.AllFinite) (h : s.IsWrittenAs bytes)
    (hread : d.read p = .ok bytes) : load d p = .ok (some s) := by
  have hback := ofJsonBytes?_of_isWrittenAs (fun q hq => hfinite.of_mem hq) h
  rw [load, hread]
  simp only [not_blank_of_isWrittenAs h, hback]
  rfl

/-- A file that holds what was saved is loaded as it was saved. -/
theorem load_of_holds (hfinite : s.AllFinite) (h : d.Holds p s.toJson.toUTF8) :
    load d p = .ok (some s) :=
  load_of_isWrittenAs hfinite s.isWrittenAs_toJson h.read

/-- What is restored from a file that keeps a snapshot. -/
theorem load_of_keeps (hfinite : s.AllFinite) (h : d.Keeps p s) :
    load d p = .error .io ∨ ∃ found, load d p = .ok found ∧ found.getD empty = s := by
  rcases h with hholds | ⟨rfl, hvacant⟩
  · exact .inr ⟨some s, load_of_holds hfinite hholds, rfl⟩
  · unfold load
    split
    · exact .inr ⟨none, rfl, rfl⟩
    · exact .inl rfl
    · next bytes hread => exact absurd hread (hvacant bytes)

/-- A save fails and leaves the disk as it is, or the file holds the snapshot from then on. -/
theorem save_cases (hsettled : d.IsSettled p) (s : Snapshot) :
    s.save d p = (.error .io, d) ∨
      ∃ next, s.save d p = (.ok (), next) ∧ d.Extends next ∧ next.Holds p s.toJson.toUTF8 := by
  unfold save
  split
  · next next hwrite =>
    exact .inr ⟨next, rfl, Disk.extends_of_write hwrite, Disk.holds_of_write hsettled hwrite⟩
  · exact .inl rfl

/-- A save that works leaves everything where it is. -/
theorem extends_of_save (h : s.save d p = (.ok (), next)) : d.Extends next := by
  unfold save at h
  split at h
  · next hwrite =>
    cases h
    exact Disk.extends_of_write hwrite
  · cases h

/-- A save that fails leaves the disk as it is. -/
theorem save_of_error {e : StoreError} (h : s.save d p = (.error e, next)) :
    e = .io ∧ next = d := by
  unfold save at h
  split at h
  · cases h
  · cases h
    exact ⟨rfl, rfl⟩

end Snapshot

/-- A path that keeps a snapshot leads to no file that is not there. -/
theorem Disk.Keeps.isSettled {d : Disk} {p : Path} {s : Snapshot} (h : d.Keeps p s) :
    d.IsSettled p := by
  rcases h with hholds | ⟨-, hvacant⟩
  · exact hholds.isSettled
  · intro place n hfind
    have hread : d.read p = .ok (d.content n).toBytes := by
      rw [Disk.read, hfind]
      rfl
    exact absurd hread (hvacant _)

namespace SnapshotFile

/-- What follows a write, with the answer in another form. -/
theorem map_afterWrite {α β : Type} (f : SnapshotFile) (d : Disk) (a : α) (g : α → β) :
    ((f.afterWrite d a).1.map g, (f.afterWrite d a).2) = f.afterWrite d (g a) := by
  unfold afterWrite
  split
  · split <;> rfl
  · rfl

/-- A write is refused and leaves everything as it is, or the store holds what the store in memory
would hold, and saves it if it saves after every write. -/
theorem performOn_cases (f : SnapshotFile) (d : Disk) (w : Write) :
    (∃ e, w.performOn d f = (.error (.invalid e), f, d) ∧
      w.perform f.contents = (.error (.invalid e), f.contents)) ∨
      ∃ answer, (w.perform f.contents).1 = .ok answer ∧
        w.performOn d f = { f with contents := (w.perform f.contents).2 }.afterWrite d answer := by
  -- Only an accepted write goes on to the save.
  cases w with
  | one m =>
    rcases Memory.create_cases f.contents m with ⟨stored, next, hcreate, -, -⟩ | ⟨e, hcreate⟩
    · right
      refine ⟨some stored, ?_⟩
      rw [Write.perform_one_of_ok hcreate, Write.performOn, SnapshotFile.create, hcreate]
      exact ⟨rfl, map_afterWrite { f with contents := next } d stored some⟩
    · left
      refine ⟨e, ?_, Write.perform_one_of_error hcreate⟩
      rw [Write.performOn, SnapshotFile.create, hcreate]
      rfl
  | batch metrics =>
    cases hcreate : Memory.createAll f.contents metrics with
    | ok next =>
      right
      refine ⟨none, ?_⟩
      rw [Write.perform_batch_of_ok hcreate, Write.performOn, SnapshotFile.createAll, hcreate]
      exact ⟨rfl, map_afterWrite { f with contents := next } d () fun _ => none⟩
    | error e =>
      left
      refine ⟨e, ?_, Write.perform_batch_of_error hcreate⟩
      rw [Write.performOn, SnapshotFile.createAll, hcreate]
      rfl

end SnapshotFile

/-! ## The snapshot file in any order

What a save writes is loaded again as the same snapshot, bit for bit, in whatever order the members
of its two objects stand (`snapshot_is_loaded_as_saved`). The pairs of a series make the series in
any order, so only the text has to be read back.

A gauge is written with the fewest digits that read back (`Binary64.isShortestText_toJson`), and
what is read from a text is rounded correctly (`Binary64.exists_readsAs_of_asBinary64?`).
-/

namespace Binary64

variable {x : Binary64} {cs : List Char}

/-! ### Gauges as texts -/

/-- A text is the sign of a number and a decimal that reads back as its magnitude, and no decimal
that reads back has fewer digits. -/
def IsShortestText (x : Binary64) (text : List Char) : Prop :=
  ∃ d : Decimal, text = (if x.isNegative then ['-'] else []) ++ NumberLayout.json.magnitude d ∧
    d.nearestRank = x.rank ∧
    ∀ other : Decimal, other.nearestRank = x.rank → d.digitCount ≤ other.digitCount

/-- A gauge is written with as few digits as tell it from every other number. -/
theorem isShortestText_toJson (h : x.isFinite = true) : x.IsShortestText x.toJson := by
  have hrank : x.rank < infinityRank := of_decide_eq_true h
  have htext : x.toJson = (NumberLayout.json.write x).toList := if_pos h
  refine ⟨shortest .toEven x.rank, ?_, nearestRank_shortest .toEven hrank, fun other hother => ?_⟩
  · rw [htext]
    exact toList_write _ h
  · exact digitCount_shortest_le .toEven hrank hother

/-- A sign and digits that are read as a number, rounded correctly. -/
structure ReadsAs (sign digits : List Char) (x : Binary64) : Prop where
  signText : sign = ['-'] ∧ x.isNegative = true ∨ (sign = ['+'] ∨ sign = []) ∧ x.isNegative = false
  rounded : ∃ d, Decimal.read? digits = some d ∧ IsNearest d.fraction.1 d.fraction.2 x.rank

/-- A text that is read as a number reads as the nearest one. -/
theorem readsAs_of_readRank? {sign digits : List Char} {negative : Bool}
    (hsign : sign = ['-'] ∧ negative = true ∨ (sign = ['+'] ∨ sign = []) ∧ negative = false)
    (h : (readRank? digits).map (ofRank negative) = some x) (hfinite : x.isFinite = true) :
    ReadsAs sign digits x := by
  obtain ⟨hneg, d, hd, hrank⟩ := exists_decimal_of_readRank? h hfinite
  refine ⟨?_, d, hd, ?_⟩
  · rwa [hneg]
  · rw [← hrank]
    exact d.isNearest_nearestRank

/-- A number of a JSON text is rounded correctly. -/
theorem exists_readsAs_of_asBinary64? (h : Json.asBinary64? (.number cs) = some x) :
    ∃ sign digits, cs = sign ++ digits ∧ ReadsAs sign digits x := by
  obtain ⟨hread, hfinite⟩ := Option.filter_eq_some_iff.1 h
  unfold read? at hread
  rw [String.toList_ofList] at hread
  split at hread
  · next digits =>
    exact ⟨['-'], digits, rfl, readsAs_of_readRank? (.inl ⟨rfl, rfl⟩) hread hfinite⟩
  · next digits =>
    exact ⟨['+'], digits, rfl, readsAs_of_readRank? (.inr ⟨.inl rfl, rfl⟩) hread hfinite⟩
  · exact ⟨[], cs, rfl, readsAs_of_readRank? (.inr ⟨.inr rfl, rfl⟩) hread hfinite⟩

end Binary64

/-- **A snapshot is loaded as it was saved.** For every snapshot with finite gauges: what a save
writes is loaded as this very snapshot. So is its text with the members in any other order, right
after it was written and wherever a file holds it; a save writes one of these texts. Gauges are
written with the fewest digits that read back, and numbers are rounded correctly when they are
read. -/
theorem snapshot_is_loaded_as_saved {s : Snapshot} (hfinite : s.AllFinite) :
    (∀ (d : Disk) p, d.IsSettled p → (s.save d p).1 = .ok () →
      Snapshot.load (s.save d p).2 p = .ok (some s)) ∧
    (∀ bytes, s.IsWrittenAs bytes → ∀ (d next : Disk) p, d.IsSettled p →
      d.write p bytes = .ok next → Snapshot.load next p = .ok (some s)) ∧
    (∀ bytes, s.IsWrittenAs bytes → ∀ (d : Disk) p, d.read p = .ok bytes →
      Snapshot.load d p = .ok (some s)) ∧
    s.IsWrittenAs s.toJson.toUTF8 ∧
    (∀ name x, s.gauges.get? name = some x → x.IsShortestText x.toJson) ∧
    ∀ cs x, Json.asBinary64? (.number cs) = some x →
      ∃ sign digits, cs = sign ++ digits ∧ Binary64.ReadsAs sign digits x := by
  refine ⟨fun d p hsettled hsave => ?_, fun bytes hbytes d next p hsettled hwrite => ?_,
    fun bytes hbytes d p hread => ?_, s.isWrittenAs_toJson, fun name x hx => ?_, fun cs x hx => ?_⟩
  -- A save that has not failed has written the whole file.
  · obtain herror | ⟨next, hok, -, hholds⟩ := Snapshot.save_cases hsettled s
    · rw [herror] at hsave
      cases hsave
    · rw [hok]
      exact Snapshot.load_of_holds hfinite hholds
  · exact Snapshot.load_of_isWrittenAs hfinite hbytes (Disk.holds_of_write hsettled hwrite).read
  · exact Snapshot.load_of_isWrittenAs hfinite hbytes hread
  · exact Binary64.isShortestText_toJson (hfinite name x hx)
  · exact Binary64.exists_readsAs_of_asBinary64? hx

/-- The empty name and names that have to be escaped, both ends of the range of counters, the
smallest magnitude and the negative zero. -/
def Snapshot.extremes : Snapshot :=
  ⟨Series.ofList [("", Int64.minValue), ("\x01\"\\😀", Int64.maxValue)],
    Series.ofList [("\n", ⟨1⟩), ("zero", Binary64.ofRank true 0)]⟩

/-- The extremes are loaded as they were saved, even from a file with its members the other way
round. -/
theorem extremes_are_loaded_as_saved :
    Snapshot.extremes.AllFinite ∧
      ∃ next, Disk.empty.write ⟨"/m.json"⟩ (Snapshot.jsonOf
          Snapshot.extremes.counters.toList.reverse
          Snapshot.extremes.gauges.toList.reverse).toUTF8 = .ok next ∧
        Snapshot.load next ⟨"/m.json"⟩ = .ok (some Snapshot.extremes) := by
  have hfinite : Snapshot.extremes.AllFinite := by
    intro name x hx
    have hall : ∀ q ∈ Snapshot.extremes.gauges.toList, q.2.isFinite = true := by decide +kernel
    exact hall (name, x) (Series.mem_toList_iff.2 hx)
  refine ⟨hfinite, _, rfl, ?_⟩
  refine (snapshot_is_loaded_as_saved hfinite).2.1 _ ?_ Disk.empty _ ⟨"/m.json"⟩
    (Disk.isSettled_empty _) rfl
  exact ⟨_, _, List.reverse_perm _, List.reverse_perm _, rfl⟩

end Telemetry
