import SearchTables.Scan.Request
import SearchTables.Proofs.Outcome
import SearchTables.Scan.Engine
import SearchTables.Proofs.Scan.Feed

/-! # Requests and selections — the rows that a request asks for

`ScanOrder.compile` checks the bounds and the columns, translates the filters and chooses a
projection, in that order. A scan that was worked out passed each of these steps, and each of its
parts comes from one of them (`ScanOrder.compiled_of_compile`).

A request says which rows come out of a list of hits, without a word on pages or counters: those of
the hits that the row filter accepts, after as many as the offset says, and no more than the limit
says. Hit by hit the selection grows by at most one row (`ScanRequest.Progress`), and when it is as
long as the limit says it is complete (`Progress.selection_append`). -/

namespace SearchTables

/-! ## Compilation -/

/-- The steps of an order that could be worked out, with what they gave. -/
structure ScanOrder.Compiled (order : ScanOrder) (schema : Schema) (index : String)
    (settings : ScanSettings) (r : ScanRequest) : Prop where
  limit : ScanOrder.checkLimit order.limit = .ok r.limit
  offset : ScanOrder.checkOffset order.offset = .ok r.offset
  columns_known : order.checkColumns schema index = .ok ()
  columns : r.columns = order.outputColumns
  rowFilter : r.rowFilter = order.rowFilter
  filters : ∃ translation, translateFilters order.filters schema = .ok translation ∧
    r.query = Clause.combine (order.baseQuery.map .native) translation.clause ∧
    r.fullyPushed = translation.fullyPushed

/-- **An order that could be worked out passed every step.** -/
theorem ScanOrder.compiled_of_compile {order : ScanOrder} {schema : Schema} {index : String}
    {settings : ScanSettings} {r : ScanRequest} (h : order.compile schema index settings = .ok r) :
    order.Compiled schema index settings r := by
  simp only [ScanOrder.compile, bind_eq_ok] at h
  obtain ⟨limit, hlimit, offset, hoffset, _, hcolumns, translation, htranslation, h⟩ := h
  -- the projection is chosen one way or the other, and nothing else of the request depends on it
  split at h <;>
    · obtain ⟨projection, -, hr⟩ := bind_eq_ok.1 h
      obtain rfl := pure_eq_ok.1 hr
      exact ⟨hlimit, hoffset, hcolumns, rfl, rfl, translation, htranslation, rfl, rfl⟩

end SearchTables

namespace SearchTables.ScanRequest

/-! ## The selection of a list of hits -/

section Selection

variable (r : ScanRequest) (schema : Schema)

/-- The row of a hit. -/
def decode (hit : Json) : Except Error Row := do
  let decoder ← RowDecoder.create r.columns schema
  decoder.decode hit

/-- Whether the row filter accepts a hit, by its row of all columns. Without row filter every hit is
accepted. -/
def accepts (hit : Json) : Except Error Bool :=
  match r.rowFilter with
  | none => .ok true
  | some filter => do
      let decoder ← RowDecoder.create (idColumn :: schema.columns.map (·.name)) schema
      let row ← decoder.decode hit
      filter.keeps row

/-- The hits that the row filter accepts. -/
def accepted (hits : List Json) : List Json :=
  hits.filter fun hit =>
    match r.accepts schema hit with
    | .ok kept => kept
    | .error _ => false

/-- At most as many elements as a limit says. -/
def upTo {α : Type} (limit : Option Nat) (xs : List α) : List α :=
  match limit with
  | none => xs
  | some n => xs.take n

/-- The hits whose rows are asked for. -/
def selection (hits : List Json) : List Json :=
  upTo r.limit ((r.accepted schema hits).drop r.offset)

/-- Whether more rows are asked for than a number. -/
def Wants (count : Nat) : Prop := ∀ limit, r.limit = some limit → count < limit

/-- Rows that are those of the selection from hits, for all of which the row filter has an answer.
-/
structure Taken (hits : List Json) (rows : List Row) : Prop where
  answered : ∀ hit ∈ hits, ∃ kept, r.accepts schema hit = .ok kept
  decoded : (r.selection schema hits).map (r.decode schema) = rows.map .ok

/-- Why a scan fails that has consumed some hits of a feed: the feed fails after them, the row
filter or the decoder for its row fails on the hit after them, or that hit is selected and has no
row. -/
inductive FailsAt (ending : FeedEnd) (consumed left : List Json) (e : Error) : Prop where
  | fetch (hleft : left = []) (hending : ending = .failed e)
  | rowFilter {hit : Json} {rest : List Json} (hleft : left = hit :: rest)
      (haccepts : r.accepts schema hit = .error e)
  | decode {hit : Json} {rest : List Json} (hleft : left = hit :: rest)
      (hselected : r.selection schema (consumed ++ [hit]) = r.selection schema consumed ++ [hit])
      (hdecode : r.decode schema hit = .error e)

end Selection

/-! ## Hit by hit -/

/-- What is done after some hits: how many accepted hits were left out, and the rows of those that
come next. -/
structure Progress (r : ScanRequest) (schema : Schema) (consumed : List Json) (skipped : Nat)
    (rows : List Row) :
    Prop where
  answered : ∀ hit ∈ consumed, ∃ kept, r.accepts schema hit = .ok kept
  skipped : skipped = min r.offset (r.accepted schema consumed).length
  decoded : ((r.accepted schema consumed).drop r.offset).map (r.decode schema) = rows.map .ok
  below : ∀ limit, r.limit = some limit → rows.length ≤ limit

variable {r : ScanRequest} {schema : Schema} {consumed : List Json} {skipped : Nat}
  {rows : List Row} {hit : Json}

/-- Before the first hit nothing is done. -/
theorem progress_nil : r.Progress schema [] 0 [] where
  answered := by simp
  skipped := by simp [accepted]
  decoded := by simp [accepted]
  below := by simp

/-- A list that is no longer than the limit stays as it is. -/
theorem upTo_of_length_le {α : Type} {limit : Option Nat} {xs : List α}
    (h : ∀ n, limit = some n → xs.length ≤ n) : upTo limit xs = xs := by
  cases limit with
  | none => rfl
  | some n => exact List.take_of_length_le (h n rfl)

/-- The accepted hits of two lists, one after the other. -/
theorem accepted_append (hits left : List Json) :
    r.accepted schema (hits ++ left) = r.accepted schema hits ++ r.accepted schema left :=
  List.filter_append ..

/-- A rejected hit is not among the accepted ones. -/
theorem accepted_concat_of_rejected (h : r.accepts schema hit = .ok false) :
    r.accepted schema (consumed ++ [hit]) = r.accepted schema consumed := by
  rw [accepted_append]
  simp [accepted, h]

/-- An accepted hit is the last of the accepted ones. -/
theorem accepted_concat (h : r.accepts schema hit = .ok true) :
    r.accepted schema (consumed ++ [hit]) = r.accepted schema consumed ++ [hit] := by
  rw [accepted_append]
  simp [accepted, h]

/-- There are as many rows as accepted hits after the offset. -/
theorem Progress.length_rows (h : r.Progress schema consumed skipped rows) :
    ((r.accepted schema consumed).drop r.offset).length = rows.length := by
  simpa using congrArg List.length h.decoded

/-- Up to the limit the accepted hits after the offset are selected. -/
theorem Progress.selection_eq (h : r.Progress schema consumed skipped rows) :
    r.selection schema consumed = (r.accepted schema consumed).drop r.offset :=
  upTo_of_length_le fun limit hlimit => h.length_rows ▸ h.below limit hlimit

/-- **The rows so far are those of the selection.** -/
theorem Progress.taken (h : r.Progress schema consumed skipped rows) :
    r.Taken schema consumed rows where
  answered := h.answered
  decoded := by rw [h.selection_eq, h.decoded]

/-- One more hit that the row filter answers for is answered for. -/
theorem Progress.answered_concat (h : r.Progress schema consumed skipped rows) {kept : Bool}
    (hkept : r.accepts schema hit = .ok kept) :
    ∀ other ∈ consumed ++ [hit], ∃ kept, r.accepts schema other = .ok kept := by
  intro other hother
  rcases List.mem_append.1 hother with hother | hother
  · exact h.answered other hother
  · obtain rfl := List.mem_singleton.1 hother
    exact ⟨kept, hkept⟩

/-- A rejected hit changes nothing. -/
theorem Progress.reject (h : r.Progress schema consumed skipped rows)
    (hkept : r.accepts schema hit = .ok false) :
    r.Progress schema (consumed ++ [hit]) skipped rows where
  answered := h.answered_concat hkept
  skipped := by rw [accepted_concat_of_rejected hkept, h.skipped]
  decoded := by rw [accepted_concat_of_rejected hkept, h.decoded]
  below := h.below

/-- An accepted hit before the offset is left out. -/
theorem Progress.skip (h : r.Progress schema consumed skipped rows)
    (hkept : r.accepts schema hit = .ok true)
    (hskip : skipped < r.offset) : r.Progress schema (consumed ++ [hit]) (skipped + 1) rows := by
  -- as long as hits are left out there are fewer accepted ones than the offset says
  have hshort : (r.accepted schema consumed).length < r.offset := by
    have := h.skipped
    omega
  refine ⟨h.answered_concat hkept, ?_, ?_, h.below⟩
  · rw [accepted_concat hkept, List.length_append, List.length_singleton, h.skipped]
    omega
  · have hnone : (r.accepted schema consumed).drop r.offset = [] :=
      List.drop_eq_nil_of_le (Nat.le_of_lt hshort)
    have hstill : (r.accepted schema (consumed ++ [hit])).drop r.offset = [] := by
      rw [accepted_concat hkept]
      refine List.drop_eq_nil_of_le ?_
      rw [List.length_append, List.length_singleton]
      exact hshort
    rw [hstill, ← hnone, h.decoded]

/-- An accepted hit after the offset is the next one. -/
theorem Progress.drop_concat (h : r.Progress schema consumed skipped rows)
    (hkept : r.accepts schema hit = .ok true)
    (hskip : ¬ skipped < r.offset) : (r.accepted schema (consumed ++ [hit])).drop r.offset =
      (r.accepted schema consumed).drop r.offset ++ [hit] := by
  -- no more hits are left out, so there are as many accepted ones as the offset says
  have hlong : r.offset ≤ (r.accepted schema consumed).length := by
    have := h.skipped
    omega
  rw [accepted_concat hkept, List.drop_append_of_le_length hlong]

/-- Below the limit, an accepted hit after the offset is selected. -/
theorem Progress.selection_concat (h : r.Progress schema consumed skipped rows)
    (hkept : r.accepts schema hit = .ok true) (hskip : ¬ skipped < r.offset)
    (hwants : r.Wants rows.length) :
    r.selection schema (consumed ++ [hit]) = r.selection schema consumed ++ [hit] := by
  rw [h.selection_eq, selection, h.drop_concat hkept hskip]
  refine upTo_of_length_le fun limit hlimit => ?_
  rw [List.length_append, h.length_rows, List.length_singleton]
  exact hwants limit hlimit

/-- An accepted hit after the offset gives one more row. -/
theorem Progress.row (h : r.Progress schema consumed skipped rows)
    (hkept : r.accepts schema hit = .ok true)
    (hskip : ¬ skipped < r.offset) (hwants : r.Wants rows.length) {row : Row}
    (hrow : r.decode schema hit = .ok row) :
    r.Progress schema (consumed ++ [hit]) skipped (rows ++ [row]) := by
  have hskipped := h.skipped
  refine ⟨h.answered_concat hkept, ?_, ?_, ?_⟩
  · rw [accepted_concat hkept, List.length_append, List.length_singleton]
    omega
  · rw [h.drop_concat hkept hskip, List.map_append, h.decoded, List.map_append,
      List.map_singleton, hrow, List.map_singleton]
  · intro limit hlimit
    rw [List.length_append, List.length_singleton]
    exact hwants limit hlimit

/-- **At the limit the selection is complete**: further hits do not change it. -/
theorem Progress.selection_append (h : r.Progress schema consumed skipped rows)
    (hlimit : r.limit = some rows.length)
    (left : List Json) : r.selection schema (consumed ++ left) = r.selection schema consumed := by
  rw [h.selection_eq, selection, hlimit, accepted_append, List.drop_append]
  exact List.take_left' h.length_rows

end SearchTables.ScanRequest
