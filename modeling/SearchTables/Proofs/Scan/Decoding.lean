import SearchTables.Proofs.Row.Range
import SearchTables.Proofs.Scan.Step
import SearchTables.Proofs.Scan.Yield

/-! # Decoding — the documents that abort a scan

A row decoder takes the cells of a row one after the other, so a hit has a row unless the raw value of
one of its columns exceeds the type of that column. Then the scan ends there: a document that holds an
integer past the largest double, or a timestamp outside the calendar, stops every scan that shows
it. -/

namespace SearchTables

/-! ## Rows -/

namespace RowDecoder

/-- The raw value of a column in a hit, null when there is none. -/
def rawValue (members : List (String × Json)) (column : Column) : Json :=
  (Path.find? (sourceOfHit members) column.path).getD .null

/-- A hit **exceeds** the columns of a decoder when the raw value of one of them exceeds its type. -/
def Exceeds (d : RowDecoder) (members : List (String × Json)) : Prop :=
  ∃ name column, (name, CellSource.column column) ∈ d.columns ∧
    Cell.Exceeds (Cell.indexTypeIn d.pathTypes) column.type column.path
      (.ofJson (rawValue members column))

variable {d : RowDecoder} {members : List (String × Json)}

/-- The cells of several columns come out unless a raw value exceeds. -/
theorem outOfRange_cells (d : RowDecoder) (members : List (String × Json)) :
    ∀ columns : List (String × CellSource),
      OutOfRangeWhen (∃ name column, (name, CellSource.column column) ∈ columns ∧
          Cell.Exceeds (Cell.indexTypeIn d.pathTypes) column.type column.path
            (.ofJson (rawValue members column)))
        (d.cells members columns)
  | [] => .ok (by simp) []
  | (name, origin) :: rest => by
      -- only a declared column can have a value that exceeds
      have hcell : OutOfRangeWhen (∃ column, origin = .column column ∧
          Cell.Exceeds (Cell.indexTypeIn d.pathTypes) column.type column.path
            (.ofJson (rawValue members column))) (d.cell origin members) := by
        cases origin with
        | id => exact .ok (by simp) _
        | source => exact .ok (by simp) _
        | residual =>
            refine .inr ⟨by simp, ?_⟩
            rw [cell]
            split <;> exact ⟨_, rfl⟩
        | column column =>
            refine OutOfRangeWhen.congr (Cell.outOfRange_coerce ⟨rawValue members column, rfl⟩) ?_
            simp [rawValue]
      rw [cells]
      have hboth := hcell.bind fun cell _ =>
        (outOfRange_cells d members rest).bind_ok fun cells _ => ⟨(name, cell) :: cells, rfl⟩
      refine hboth.congr ?_
      simp only [List.mem_cons, Prod.mk.injEq]
      constructor
      · rintro ⟨n, column, ⟨-, horigin⟩ | hmem, h⟩
        · exact .inl ⟨column, horigin.symm, h⟩
        · exact .inr ⟨n, column, hmem, h⟩
      · rintro (⟨column, rfl, h⟩ | ⟨n, column, hmem, h⟩)
        · exact ⟨name, column, .inl ⟨rfl, rfl⟩, h⟩
        · exact ⟨n, column, .inr hmem, h⟩

/-- The row of an object is made of the cells of its columns. -/
theorem decode_obj (d : RowDecoder) (members : List (String × Json)) :
    d.decode (.obj members) = (d.cells members d.columns).map membersOf := by
  obtain ⟨columns, paths, pathTypes⟩ := d
  cases columns <;> rfl

/-- What is no object has no row with columns. -/
theorem decode_of_not_obj {d : RowDecoder} {hit : Json} (hcolumns : d.columns ≠ [])
    (hhit : ∀ members, hit ≠ .obj members) : d.decode hit = .error .noMembers := by
  unfold decode
  split
  · next h => exact absurd h hcolumns
  · next members _ => exact absurd rfl (hhit members)
  · rfl

/-- **A hit has a row** unless it exceeds a column. -/
theorem outOfRange_decode (d : RowDecoder) (members : List (String × Json)) :
    OutOfRangeWhen (d.Exceeds members) (d.decode (.obj members)) := by
  rw [decode_obj]
  exact (outOfRange_cells d members d.columns).map membersOf

end RowDecoder

/-! ## Scans -/

namespace Scan

variable {τ : Type} {service : ScrollService τ} {s : Scan} {c : Cursor} {state : τ}
  {members : List (String × Json)} {rest : List Json}

/-- A scan that has to return the next hit of its page returns its row or fails, as its decoder does. -/
theorem advance_of_next {hit : Json} (hstate : s.state = .draining) (hcursor : s.cursor = some c)
    (hpage : c.page = hit :: rest) (hfilter : s.request.rowFilter = none)
    (hskip : ¬ s.skipped < s.request.offset) :
    s.advance service state =
      let t := { s with cursor := some { c with page := rest } }
      match s.decoder.decode hit with
      | .error e => (.failed e, t, state)
      | .ok row =>
          let t := { t with emitted := t.emitted + 1 }
          if t.atLimit then t.exhaustThen service (.row row) state else (.row row, t, state) := by
  have hrejects : { s with cursor := some { c with page := rest } }.rejects hit = .ok false := by
    simp only [rejects, hfilter]
  rw [advance_draining hstate hcursor hpage, take, hrejects]
  exact if_neg hskip

end Scan

end SearchTables
