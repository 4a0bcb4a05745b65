import AdapterReport.Proofs.Json.Record
import AdapterReport.Table.Basic

/-!
# Tables are read back

The value of a cell has no tag: a text is printed as a text, a number as a number and an absent
value as null, and the reader goes by what it finds (`Cell.readsBack`). The cells of a row are
printed in ascending order, and set in this order they make the same row again
(`Row.ofList_entries`). So a row and a table are read back whole, however deep they may be nested
(`Row.readsBack`, `Table.readsBack`).
-/

namespace AdapterReport

open Json (draft fitsWord_toInt text_textScan)
open Json.Reader (ReadsBack Stores readsBack_text readsBack_ofText? integer_draft variant_draft
  record_draft store_of)

/-! ## Cells -/

theorem Cell.int64?_toInt (n : Int64) : Cell.int64? n.toInt = some n := by
  have hfits : (Int64.minValue.toInt ≤ n.toInt && n.toInt ≤ Int64.maxValue.toInt) = true := by
    simpa using ⟨n.le_toInt, Int.le_of_lt_add_one n.toInt_lt⟩
  rw [Cell.int64?, if_pos hfits, Int64.ofInt_toInt]

/-- What is printed of a cell has no brackets and is sound. -/
theorem Cell.sound_draft (depth : Nat) (c : Cell) :
    Json.Reader.sound depth (draft c.toJson) = .ok () := by
  cases c with
  | text s => rw [Cell.toJson, draft, Json.Reader.sound, text_textScan]; rfl
  | number n =>
    rw [Cell.toJson, draft, Json.Reader.sound, Json.value_numberScan (fitsWord_toInt n)]
    rfl
  | absent => rfl

/-- **A cell is read back** as what it was: a text, a number or nothing. -/
theorem Cell.readsBack (depth : Nat) : ReadsBack (Cell.reader depth) Cell.toJson := by
  intro c
  have hsound := Cell.sound_draft depth c
  cases c with
  | text s =>
    show (do
      Json.Reader.sound depth (draft (Cell.text s).toJson)
      return Cell.text (← (Json.textScan s).text)) = _
    rw [hsound, text_textScan]
    rfl
  | number n =>
    show (do
      Json.Reader.sound depth (draft (Cell.number n).toJson)
      return Cell.number (← Json.Reader.integer int64? (draft (.number n.toInt)))) = _
    rw [hsound, integer_draft (fitsWord_toInt n) (Cell.int64?_toInt n)]
    rfl
  | absent => rfl

/-! ## Rows -/

namespace Row

variable {name : String} {cell : Cell} {cells : List (String × Cell)}

/-- The cell of an attribute behind all others is set at the end. -/
theorem insert_of_lt (h : ∀ e ∈ cells, e.1 < name) :
    insert name cell cells = cells ++ [(name, cell)] := by
  induction cells with
  | nil => rfl
  | cons e rest ih =>
    rw [List.forall_mem_cons] at h
    have hbefore : ¬ name < e.1 := fun hlt => String.lt_irrefl _ (String.lt_trans hlt h.1)
    rw [insert, if_neg hbefore, if_pos h.1, ih h.2]
    rfl

/-- Cells behind those of a row, in ascending order, are set one after the other. -/
theorem entries_foldl_set (r : Row)
    (h : (r.entries ++ cells).Pairwise (fun a b => a.1 < b.1)) :
    (cells.foldl (fun r c => r.set c.1 c.2) r).entries = r.entries ++ cells := by
  induction cells generalizing r with
  | nil => exact (List.append_nil _).symm
  | cons c rest ih =>
    have hlast : (r.set c.1 c.2).entries = r.entries ++ [c] :=
      insert_of_lt fun e he => (List.pairwise_append.mp h).2.2 e he c List.mem_cons_self
    rw [List.append_cons, ← hlast] at h ⊢
    exact ih (r.set c.1 c.2) h

theorem ofList_entries (r : Row) : ofList r.entries = r := by
  have hentries : (ofList r.entries).entries = r.entries := entries_foldl_set empty r.sorted
  cases hr : ofList r.entries with
  | mk entries sorted =>
    rw [hr] at hentries
    subst hentries
    rfl

/-- **A row is read back.** -/
theorem readsBack (depth : Nat) : ReadsBack (reader depth) toJson := by
  intro r
  have hcells : Json.Reader.map (Cell.reader (depth - 2))
      (draft (.object (r.entries.map fun e => (e.1, e.2.toJson)))) = .ok r.entries :=
    (Cell.readsBack (depth - 2)).map r.entries
  have hstores : Stores (fields depth)
      [("values", .object (r.entries.map fun e => (e.1, e.2.toJson)))] empty (ofList r.entries) :=
    .cons (store_of hcells _) (.nil _)
  rw [ofList_entries] at hstores
  exact record_draft (by decide : ["values"].Nodup) hstores

end Row

/-! ## Tables -/

theorem Orientation.ofName?_name (o : Orientation) : ofName? o.name = some o := by
  cases o <;> decide

theorem ValueStyle.ofName?_name (style : ValueStyle) : ofName? style.name = some style := by
  cases style <;> decide

/-- **A table is read back** with all its parts. -/
theorem Table.readsBack (depth : Nat) : ReadsBack (reader depth) toJson := fun t =>
  record_draft (by decide : ["title", "id", "attributes", "rows", "orientation",
      "value_format"].Nodup)
    (.cons (store_of (readsBack_text t.title) _)
    (.cons (store_of (readsBack_ofText? t.id) _)
    (.cons (store_of (readsBack_text.list t.attributes) _)
    (.cons (store_of ((Row.readsBack (depth - 2)).list t.rows) _)
    (.cons (store_of (variant_draft t.orientation.ofName?_name) _)
    (.cons (store_of (variant_draft t.valueStyle.ofName?_name) _) (.nil t)))))))

end AdapterReport
