import SearchTables.Proofs.Calendar.TimestampText
import SearchTables.Proofs.Expression.Operands
import SearchTables.Proofs.Filter.Depth
import SearchTables.Proofs.Filter.Misreadings
import SearchTables.Proofs.Row.Range

/-! # Timestamp constants — into a query, out of a row, and out of a filter

A timestamp leaves the program as its text and comes back on two ways. As the value of a cell it comes back
as the unzoned timestamp of its moment (`timestamp_text`), whatever the text that names the moment
(`timestamp_eq_of_instant_eq`). In a filter it is the constant that the call with its text stands for: the
call is read wherever an operand may begin (`readPrimary_callText`), it is the timestamp to the builder
(`reading_call`), and a comparison with it is one with the timestamp (`parseFilter_comparison`). -/

namespace SearchTables

open Expression Calendar

/-! ## Cells -/

namespace Cell

/-- Texts that name one moment are one cell. -/
theorem timestamp_eq_of_instant_eq {s s' : String} {t t' : DateTime}
    (hread : readDateTime? (Text.trim s) = some t) (hread' : readDateTime? (Text.trim s') = some t')
    (h : t.instant = t'.instant) : timestamp (.str s) = timestamp (.str s') := by
  have huniversal := DateTime.toUniversal?_eq_of_instant_eq (valid_of_readDateTime? hread)
    (valid_of_readDateTime? hread') h
  unfold timestamp
  dsimp only
  rw [hread, hread']
  dsimp only
  rw [huniversal]

/-- **The text of a timestamp is the cell of its moment**: the unzoned timestamp of the same instant, and the
timestamp itself when it has no zone. -/
theorem timestamp_text {t : DateTime} (h : t.Writable) (hinside : t.InCalendar) :
    ∃ u, timestamp (.str t.text) = .ok (.timestamp u) ∧ u.offset = none ∧ u.Valid ∧ u.instant = t.instant ∧
      (t.offset = none → u = t) := by
  obtain ⟨u, huniversal, hu⟩ := DateTime.exists_toUniversal? h.valid hinside
  have hread : readDateTime? (Text.trim t.text) = some t := by
    rw [DateTime.trim_text, DateTime.readDateTime?_text h]
  exact ⟨u, timestamp_of_read hread huniversal, hu⟩

end Cell

/-! ## Filters -/

namespace DateTime

/-- How a timestamp is written in a filter: as a call with its text. -/
def callText (t : DateTime) : String := "timestamp(\"" ++ t.text ++ "\")"

/-- The call with the text of a timestamp. -/
def call (t : DateTime) : Expression := .call "timestamp" [.literal (.text false t.text.toList)]

/-- The characters of the call. -/
theorem toList_callText (t : DateTime) (rest : List Char) :
    t.callText.toList ++ rest =
      "timestamp".toList ++ '(' :: '"' :: (t.text.toList ++ '"' :: ')' :: rest) := by
  simp [callText]

/-- The characters of a timestamp need no escapes. -/
theorem plain_of_mem_text {t : DateTime} : ∀ c ∈ t.text.toList, c ≠ '"' ∧ c ≠ '\\' ∧ c ≠ '\n' := by
  intro c hc
  have hrange := toNat_of_mem_text hc
  refine ⟨?_, ?_, ?_⟩ <;> rintro rfl <;> revert hrange <;> decide

/-- **The call with the text of a timestamp is read wherever an operand may begin**, and what follows it is
left. -/
theorem readPrimary_callText (t : DateTime) (levels : Nat) (rest : List Char) :
    readPrimary (readAt (levels + 1)) (t.callText.toList ++ rest) = some (t.call, rest) := by
  have hends : EndsExpression (')' :: rest) := by
    intro c hc
    rw [skipBlanks_cons rfl (by decide)] at hc
    obtain rfl := Option.some.inj hc
    decide
  have hquote : skipBlanks ('"' :: (t.text.toList ++ '"' :: ')' :: rest)) =
      '"' :: (t.text.toList ++ '"' :: ')' :: rest) := skipBlanks_cons rfl (by decide) _
  have hsum : readSum (readAt levels) ('"' :: (t.text.toList ++ '"' :: ')' :: rest)) =
      some (.literal (.text false t.text.toList), ')' :: rest) := by
    refine readSum_of_primary (readPrimary_text t.text_ne_nil plain_of_mem_text _) ?_ hends.endsOperand
    intro c hc
    rw [hquote] at hc
    obtain rfl := Option.some.inj hc
    decide
  rw [toList_callText]
  refine readPrimary_call (by decide) (by decide) (by decide) (readAt_of_sum hsum hends) ?_
  rw [hquote, List.head?_cons]
  decide

/-- A text without escapes is a constant to the builder, at every place that is not too deep. -/
theorem readings_text {body : List Char} (hbody : '\\' ∉ body) {limit depth : Int} (hdepth : depth + 10 ≤ limit) :
    readings limit depth [.literal (.text false body)] = .ok [.constant (.str (String.ofList body))] := by
  have hplace : depthAt depth topRank (.literal (.text false body)) ≤ limit := by
    have hlevel : depthAt depth topRank (.literal (.text false body)) = depth + (9 - 0 : Nat) + 1 := rfl
    omega
  have hcheck : checkDepth limit depth (depthAt depth topRank (.literal (.text false body))) = .ok () :=
    checkDepth_eq_ok.2 hplace
  have hliteral : (Literal.text false body).reading = .ok (.constant (.str (String.ofList body))) := by
    rw [Literal.reading, if_neg Bool.false_ne_true, unescape_of_plain hbody]
  rw [readings, reading, hcheck, hliteral]
  rfl

/-- **The call with the text of a timestamp is the timestamp** to the builder, at every place that is not too
deep. -/
theorem reading_call {t : DateTime} (h : t.Writable) {limit outer : Int} {start : Nat}
    (hdepth : outer + visits start t.call ≤ limit) :
    reading limit outer start t.call = .ok (.constant (.timestamp t)) := by
  have hvisits : visits start t.call = 9 - start + 1 + 10 := rfl
  have hplace : depthAt outer start t.call + 10 ≤ limit := by
    show outer + (9 - start : Nat) + 1 + 10 ≤ limit
    omega
  have harguments := readings_text (fun hmem => (plain_of_mem_text (t := t) _ hmem).2.1 rfl) hplace
  rw [String.ofList_toList] at harguments
  have hfunction : Reading.functionCall "timestamp" [.constant (.str t.text)] =
      .ok (.constant (.timestamp t)) := by
    unfold Reading.functionCall
    dsimp only
    rw [if_pos rfl, readDateTime?_text h]
  have hcheck : checkDepth limit outer (depthAt outer start t.call) = .ok () :=
    checkDepth_eq_ok.2 (by omega)
  unfold call at *
  rw [reading, hcheck, harguments]
  simp only [bind, Except.bind, hfunction]

/-- A comparison of a field with the call is read as such. -/
theorem read?_comparison (t : DateTime) {name : String} (hname : isName name = true)
    (htruth : isTruthWord name = false) (hnull : name ≠ "null") (relation : Relation) :
    read? (name ++ " " ++ relation.sign ++ " " ++ t.callText) = some (.relation relation (.ident name) t.call) := by
  have hchars : (name ++ " " ++ relation.sign ++ " " ++ t.callText).toList =
      name.toList ++ ' ' :: (relation.sign.toList ++ ' ' :: (t.callText.toList ++ [])) := by
    simp
  -- the text has a character at least, and so there is a level of brackets for the call
  obtain ⟨c, more, hcons, -⟩ := exists_cons_of_isName hname
  obtain ⟨levels, hlevels⟩ : ∃ levels,
      (name ++ " " ++ relation.sign ++ " " ++ t.callText).toList.length = levels + 1 :=
    ⟨_, by rw [hchars, hcons, List.cons_append, List.length_cons]⟩
  have hcall : readSum (readAt (levels + 1)) (' ' :: (t.callText.toList ++ [])) = some (t.call, []) := by
    refine readSum_of_primary ?_ ?_ endsExpression_nil.endsOperand
    · rw [readPrimary_space]
      exact readPrimary_callText t levels []
    · rw [skipBlanks_space, toList_callText]
      exact ne_sign_of_name (by decide) _
  have hread := readAt_comparison hname htruth hnull relation hcall endsExpression_nil
  unfold read?
  dsimp only
  rw [hlevels, hchars, hread]
  rfl

/-- **A comparison with the call is one with the timestamp.** -/
theorem parseFilter_comparison {t : DateTime} (h : t.Writable) {name : String} (hname : isName name = true)
    (htruth : isTruthWord name = false) (hnull : name ≠ "null") (hpath : Path.fault? name = none)
    {relation : Relation} {op : CompareOp} (hop : relation.compareOp? = some op) {limit : Int} (hlimit : 20 ≤ limit) :
    parseFilter (name ++ " " ++ relation.sign ++ " " ++ t.callText) limit =
      .ok (.compare op name (.timestamp t)) := by
  -- no level of the comparison is deeper than twenty
  have hcheck : ∀ {above depth : Int}, depth ≤ 20 → checkDepth limit above depth = .ok () := fun hle =>
    checkDepth_eq_ok.2 (by omega)
  have hfield : reading limit 4 relationRank (.ident name) = .ok (.field name) := by
    have hplace : depthAt 4 relationRank (.ident name) = 11 := rfl
    rw [reading, hplace, hcheck (by decide), fieldReading, hpath]
    rfl
  have hcall : reading limit 4 sumRank t.call = .ok (.constant (.timestamp t)) :=
    reading_call h (show (4 : Int) + (9 - 4 + 1 + 10 : Nat) ≤ limit by omega)
  -- the name is all of its path
  have hleaf : ∀ make : String → Predicate, Reading.leaf name make = make name := by
    intro make
    rw [Reading.leaf, Path.segments_of_validSegment (validSegment_of_isName hname)]
    rfl
  have hcompare : relation.reading (.field name) (.constant (.timestamp t)) =
      .predicate (.compare op name (.timestamp t)) := by
    unfold Relation.reading
    rw [hop]
    dsimp only [Reading.comparison, Reading.test]
    rw [hleaf]
  have hplace : depthAt 0 topRank (.relation relation (.ident name) t.call) = 4 := rfl
  rw [parseFilter_of_read (read?_comparison t hname htruth hnull relation), toPredicate, reading, hplace,
    hcheck (by decide), hfield, hcall]
  simp only [bind, Except.bind, pure, Except.pure, hcompare]
  rfl

/-- **Timestamp constants survive the trip to text and back.** -/
theorem survives_text {c : DateTime} (h : c.Writable) (hinside : c.InCalendar) :
    queryConstant (.timestamp c) = .ok (some (.str c.text)) ∧
      (∃ u, Cell.primitive "TIMESTAMP" (.str c.text) = .ok (.timestamp u) ∧ u.offset = none ∧ u.Valid ∧
        u.instant = c.instant ∧ (c.offset = none → u = c)) ∧
      (∀ levels rest, readPrimary (readAt (levels + 1)) (c.callText.toList ++ rest) = some (c.call, rest)) ∧
      (∀ (limit outer : Int) start, outer + visits start c.call ≤ limit →
        reading limit outer start c.call = .ok (.constant (.timestamp c))) ∧
      (∀ name relation op (limit : Int), isName name = true → isTruthWord name = false → name ≠ "null" →
        Path.fault? name = none → Relation.compareOp? relation = some op → 20 ≤ limit →
        parseFilter (name ++ " " ++ relation.sign ++ " " ++ c.callText) limit =
          .ok (.compare op name (.timestamp c))) ∧
      ∀ s t, readDateTime? (Text.trim s) = some t → t.instant = c.instant →
        Cell.primitive "TIMESTAMP" (.str s) = Cell.primitive "TIMESTAMP" (.str c.text) := by
  have hcell : ∀ v, Cell.primitive "TIMESTAMP" v = Cell.timestamp v := fun _ => rfl
  simp only [hcell]
  refine ⟨rfl, Cell.timestamp_text h hinside, readPrimary_callText c, fun _ _ _ => reading_call h,
    fun _ _ _ _ hname htruth hnull hpath hop => parseFilter_comparison h hname htruth hnull hpath hop, ?_⟩
  intro s t hread hinstant
  have hreadText : readDateTime? (Text.trim c.text) = some c := by
    rw [trim_text, readDateTime?_text h]
  exact Cell.timestamp_eq_of_instant_eq hread hreadText hinstant

/-- The last second of a leap day, five and a half hours and seven seconds behind universal time. -/
def leapSecond : DateTime :=
  ⟨⟨2024, 2, 29⟩, ⟨23, 59, 59, 250⟩, some (-19807000000)⟩

/-- The last second of that day is the next morning in universal time, and it is the same constant in a
filter. -/
theorem survives_text_leapSecond :
    leapSecond.Writable ∧ leapSecond.InCalendar ∧
      leapSecond.text = "2024-02-29T23:59:59.000250-05:30:07" ∧
      Cell.primitive "TIMESTAMP" (.str leapSecond.text) =
        .ok (.timestamp ⟨⟨2024, 3, 1⟩, ⟨5, 30, 6, 250⟩, none⟩) ∧
      Cell.primitive "TIMESTAMP" (.str "2024-03-01 05:30:06.00025Z") =
        Cell.primitive "TIMESTAMP" (.str leapSecond.text) ∧
      parseFilter ("seen" ++ " " ++ Relation.ge.sign ++ " " ++ leapSecond.callText) 20 =
        .ok (.compare .ge "seen" (.timestamp leapSecond)) := by
  have hwritable : leapSecond.Writable := ⟨by decide, fun offset hoffset => by
    obtain rfl := Option.some.inj hoffset
    decide⟩
  have hinside : leapSecond.InCalendar := by decide
  obtain ⟨-, ⟨u, hu, hzone, hvalid, hinstant, -⟩, -, -, hfilter, htexts⟩ := survives_text hwritable hinside
  have hmorning : u = ⟨⟨2024, 3, 1⟩, ⟨5, 30, 6, 250⟩, none⟩ := by
    refine eq_of_localMicros_eq hvalid (by decide) hzone ?_
    rw [← instant_of_unzoned hzone, hinstant]
    decide
  refine ⟨hwritable, hinside, by decide, hmorning ▸ hu, ?_, ?_⟩
  · exact htexts _ ⟨⟨2024, 3, 1⟩, ⟨5, 30, 6, 250⟩, some 0⟩ (by decide) (by decide)
  · exact hfilter "seen" .ge .ge 20 (by decide) (by decide) (by decide) (by decide) rfl (by decide)

end DateTime

end SearchTables
