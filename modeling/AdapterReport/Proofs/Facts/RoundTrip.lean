import AdapterReport.Facts.Device
import AdapterReport.Facts.Interface
import AdapterReport.Facts.Summary
import AdapterReport.Proofs.Table.RoundTrip

/-!
# Facts are read back

Devices, interfaces and summaries are read back from their texts, as tables are. A fact that may be
missing is printed as null where it is missing, so it is missing again behind the reading.

`serialized_reads_back` puts all kinds of values together: each is read as it was from its text on
one line and from its text over several lines (`ReadsAs`).
-/

namespace AdapterReport

open Json (fitsWord_of_lt)
open Json.Reader (ReadsBack readsBack_text readsBack_ofText? integer_draft record_draft store_of)

/-! ## Numbers of devices and of memory -/

theorem natCast_inRange {n size : Nat} (h : n < size) :
    (0 ≤ (n : Int) && (n : Int) < size) = true := by
  rw [Bool.and_eq_true, decide_eq_true_eq, decide_eq_true_eq]
  omega

theorem Device.uint16?_toNat (n : UInt16) : uint16? n.toNat = some n := by
  rw [uint16?, if_pos (natCast_inRange n.toNat_lt_size), Int.toNat_natCast, UInt16.ofNat_toNat]

theorem Device.uint8?_toNat (n : UInt8) : uint8? n.toNat = some n := by
  rw [uint8?, if_pos (natCast_inRange n.toNat_lt_size), Int.toNat_natCast, UInt8.ofNat_toNat]

theorem Memory.uint64?_toNat (n : UInt64) : uint64? n.toNat = some n := by
  rw [uint64?, if_pos (natCast_inRange n.toNat_lt_size), Int.toNat_natCast, UInt64.ofNat_toNat]

theorem Device.fitsWord_uint16 (n : UInt16) : Json.FitsWord n.toNat :=
  fitsWord_of_lt (Nat.lt_trans n.toNat_lt_size (by decide))

theorem Device.fitsWord_uint8 (n : UInt8) : Json.FitsWord n.toNat :=
  fitsWord_of_lt (Nat.lt_trans n.toNat_lt_size (by decide))

/-! ## Facts -/

theorem Device.readsBack : ReadsBack reader toJson := fun d =>
  record_draft (by decide)
    (.cons (store_of (readsBack_text d.address) _)
    (.cons (store_of (integer_draft (fitsWord_uint16 _) (uint16?_toNat d.vendorId)) _)
    (.cons (store_of (integer_draft (fitsWord_uint16 _) (uint16?_toNat d.deviceId)) _)
    (.cons (store_of (integer_draft (fitsWord_uint8 _) (uint8?_toNat d.revision)) _)
    (.cons (store_of (integer_draft (fitsWord_uint16 _) (uint16?_toNat d.subsystemVendorId)) _)
    (.cons (store_of (integer_draft (fitsWord_uint16 _) (uint16?_toNat d.subsystemId)) _)
    (.nil d)))))))

theorem Interface.readsBack : ReadsBack reader toJson := fun i =>
  record_draft (by decide)
    (.cons (store_of (readsBack_text i.name) _)
    (.cons (store_of (readsBack_text i.driver) _)
    (.cons (store_of (readsBack_ofText? i.busInfo) _)
    (.cons (store_of (readsBack_ofText? i.driverVersion) _)
    (.cons (store_of (readsBack_ofText? i.firmwareVersion) _)
    (.cons (store_of (readsBack_ofText? i.macAddress) _) (.nil i)))))))

theorem Memory.readsBack : ReadsBack reader toJson := fun m =>
  have hfits (n : UInt64) : Json.FitsWord n.toNat := fitsWord_of_lt n.toNat_lt_size
  record_draft (by decide)
    (.cons (store_of (integer_draft (hfits _) (uint64?_toNat m.totalMb)) _)
    (.cons (store_of (integer_draft (hfits _) (uint64?_toNat m.freeMb)) _) (.nil m)))

theorem Summary.readsBack : ReadsBack reader toJson := fun s =>
  have hmemory : ReadsBack (Json.Reader.nullable Memory.reader) fun m =>
      (m.map Memory.toJson).getD .null := Memory.readsBack.nullable fun _ h => nomatch h
  record_draft (by decide)
    (.cons (store_of (readsBack_text s.osName) _)
    (.cons (store_of (readsBack_text s.version) _)
    (.cons (store_of (readsBack_text s.architecture) _)
    (.cons (store_of (readsBack_text s.systemName) _)
    (.cons (store_of (readsBack_ofText? s.kernelCommandLine) _)
    (.cons (store_of (readsBack_ofText? s.distribution) _)
    (.cons (store_of (hmemory s.memory) _) (.nil s))))))))

/-! ## All kinds of values -/

/-- The text of the value is read as `a`, on one line and over several lines. -/
def Json.ReadsAs {α : Type} (reader : Json.Reader α) (v : Json) (a : α) : Prop :=
  Json.read reader v.compact = .ok a ∧ Json.read reader v.pretty = .ok a

theorem Json.ReadsAs.of_readsBack {α : Type} {reader : Json.Reader α} {print : α → Json}
    (h : ReadsBack reader print) (a : α) : Json.ReadsAs reader (print a) a :=
  ⟨h.compact a, h.pretty a⟩

open Json (ReadsAs) in
/-- **Serialized tables and facts are read back** as they were, on one line and over several lines;
a text, a number and nothing at all are kept apart, and what is missing stays missing. -/
theorem serialized_reads_back (depth : Nat) :
    (∀ t : Table, ReadsAs (Table.reader depth) t.toJson t) ∧
    (∀ r : Row, ReadsAs (Row.reader depth) r.toJson r) ∧
    (∀ c : Cell, ReadsAs (Cell.reader depth) c.toJson c) ∧
    (∀ d : Device, ReadsAs Device.reader d.toJson d) ∧
    (∀ i : Interface, ReadsAs Interface.reader i.toJson i) ∧
    (∀ s : Summary, ReadsAs Summary.reader s.toJson s) ∧
    (∀ text, ReadsAs (Cell.reader depth) (.text text) (.text text)) ∧
    (∀ n : Int64, ReadsAs (Cell.reader depth) (.number n.toInt) (.number n)) ∧
    ReadsAs (Cell.reader depth) .null .absent ∧
    ∀ text?, ReadsAs (Json.Reader.nullable Json.Reader.text) (Json.ofText? text?) text? := by
  have hcell (c : Cell) := ReadsAs.of_readsBack (Cell.readsBack depth) c
  exact ⟨.of_readsBack (Table.readsBack depth), .of_readsBack (Row.readsBack depth), hcell,
    .of_readsBack Device.readsBack, .of_readsBack Interface.readsBack,
    .of_readsBack Summary.readsBack, fun text => hcell (.text text), fun n => hcell (.number n),
    hcell .absent, .of_readsBack readsBack_ofText?⟩

end AdapterReport
