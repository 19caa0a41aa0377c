import SearchTables.Proofs.Scan.Step

/-! # Views — one service seen through another

A service may know more than another one, such as a record of what it was asked, and answer every request
as the other one does. Then a scan does the same with both, and what it can come to with the one is what it
can come to with the other (`Scan.Reaches.seen`, `Scan.Reaches.exists_seen`). -/

namespace SearchTables

variable {τ ω : Type} {α β : Type}

/-- An outcome, as its state is seen. -/
def Seen (see : ω → τ) (outcome : α × β × ω) : α × β × τ :=
  (outcome.1, outcome.2.1, see outcome.2.2)

/-- A service is **seen as** another one: each request comes to the same, as the states are seen. -/
structure ScrollService.SeenAs (wide : ScrollService ω) (see : ω → τ) (service : ScrollService τ) :
    Prop where
  start : ∀ q now, service.start q (see now) = Prod.map id see (wide.start q now)
  next : ∀ scrollId keep now,
    service.next scrollId keep (see now) = Prod.map id see (wide.next scrollId keep now)
  release : ∀ scrollId now,
    service.release scrollId (see now) = Prod.map id see (wide.release scrollId now)
  log : ∀ record now, service.log record (see now) = see (wide.log record now)

namespace ScrollService.SeenAs

variable {wide : ScrollService ω} {see : ω → τ} {service : ScrollService τ}
  (h : wide.SeenAs see service)
include h

/-! ## Steps -/

/-- A fetch is seen as a fetch. -/
theorem fetch (c : Cursor) (now : ω) :
    c.fetch service (see now) = Seen see (c.fetch wide now) := by
  rw [Cursor.fetch, Cursor.fetch]
  split
  · rfl
  · split
    · dsimp only
      rw [h.start]
      rfl
    · split
      · rfl
      · rw [h.next]
        rfl

/-- Closing a cursor is seen as that. -/
theorem close (c : Cursor) (now : ω) :
    c.close service (see now) = Seen see (c.close wide now) := by
  rw [Cursor.close, Cursor.close]
  dsimp only
  split
  · rfl
  · split
    · rfl
    · rw [h.release]
      rcases wide.release _ now with ⟨e | done, later⟩ <;> rfl

/-- The end of a scan is seen as that. -/
theorem exhaust (s : Scan) (now : ω) :
    s.exhaust service (see now) = Seen see (s.exhaust wide now) := by
  rw [Scan.exhaust, Scan.exhaust]
  split
  · rfl
  · dsimp only
    split
    · rw [h.log]
      rfl
    · rename_i c _
      rw [h.close]
      rcases c.close wide now with ⟨e | done, c', later⟩
      · rfl
      · simp only [Seen, h.log]

/-- Ending a scan and going on is seen as that. -/
theorem exhaustThen (turn : Turn) (s : Scan) (now : ω) :
    s.exhaustThen service turn (see now) = Seen see (s.exhaustThen wide turn now) := by
  rw [Scan.exhaustThen, Scan.exhaustThen, h.exhaust]
  rcases s.exhaust wide now with ⟨e | done, t, later⟩ <;> rfl

/-- Fetching a page is seen as that. -/
theorem fetchPage (s : Scan) (c : Cursor) (now : ω) :
    s.fetchPage service c (see now) = Seen see (s.fetchPage wide c now) := by
  rw [Scan.fetchPage, Scan.fetchPage, h.fetch]
  rcases c.fetch wide now with ⟨e | count, c', later⟩
  · rfl
  · dsimp only [Seen]
    split
    · exact h.exhaustThen ..
    · rfl

/-- The decision about a hit is seen as that. -/
theorem take (s : Scan) (hit : Json) (now : ω) :
    s.take service hit (see now) = Seen see (s.take wide hit now) := by
  rw [Scan.take, Scan.take]
  rcases s.rejects hit with e | rejected
  · rfl
  · cases rejected with
    | true => rfl
    | false =>
        dsimp only
        split
        · rfl
        · rcases s.decoder.decode hit with e | row
          · rfl
          · dsimp only
            split
            · exact h.exhaustThen ..
            · rfl

/-- **A step is seen as a step.** -/
theorem advance (s : Scan) (now : ω) :
    s.advance service (see now) = Seen see (s.advance wide now) := by
  rw [Scan.advance, Scan.advance]
  split
  · rfl
  · rw [Scan.start, Scan.start]
    split
    · exact h.exhaustThen ..
    · rw [h.log]
      rfl
  · rfl
  · exact h.fetchPage ..
  · split
    · rfl
    · exact h.take ..

/-! ## Calls -/

/-- Steps are seen as steps. The induction is on their number. -/
theorem run (steps : Nat) (s : Scan) (now : ω) :
    s.run service steps (see now) = (s.run wide steps now).map (Seen see) := by
  induction steps generalizing s now with
  | zero => rfl
  | succ steps ih =>
      rw [Scan.run, Scan.run, h.advance]
      rcases s.advance wide now with ⟨turn, t, later⟩
      cases turn with
      | again => exact ih t later
      | row | finished | failed => rfl

/-- **A call is seen as a call.** -/
theorem call (steps : Nat) (s : Scan) (now : ω) :
    s.next service steps (see now) = (s.next wide steps now).map (Seen see) := by
  have hsettle : ∀ outcome : Turn × Scan × ω,
      Scan.settle service (Seen see outcome) = Seen see (Scan.settle wide outcome) := by
    rintro ⟨turn, t, later⟩
    cases turn with
    | failed e => exact h.exhaustThen ..
    | again | row | finished => rfl
  rw [Scan.next, Scan.next, h.run, Option.map_map, Option.map_map]
  congr 1
  funext outcome
  exact hsettle outcome

end ScrollService.SeenAs

/-! ## Runs -/

namespace Scan.Reaches

variable {wide : ScrollService ω} {see : ω → τ} {service : ScrollService τ}
  {s t : Scan} {rows : List Row}

/-- **What a scan can come to is seen as what it can come to.** -/
theorem seen (h : wide.SeenAs see service) {now later : ω} (hreaches : s.Reaches wide now rows t later) :
    s.Reaches service (see now) rows t (see later) := by
  induction hreaches with
  | start => exact .start
  | @next _ t _ mid _ steps _ _ hnext ih =>
      have hcall := h.call steps t mid
      rw [hnext] at hcall
      exact ih.next hcall
  | within _ hadvance hturn hbroken ih =>
      refine ih.within ?_ hturn hbroken
      rw [h.advance, hadvance]
      rfl
  | @close _ t _ mid _ _ _ hclose ih =>
      have hend := h.exhaust t mid
      rw [← Scan.close, ← Scan.close, hclose] at hend
      exact ih.close hend

/-- **What a scan can come to is seen of something it can come to.** -/
theorem exists_seen (h : wide.SeenAs see service) (now : ω) {found : τ}
    (hreaches : s.Reaches service (see now) rows t found) :
    ∃ later, see later = found ∧ s.Reaches wide now rows t later := by
  induction hreaches with
  | start => exact ⟨now, rfl, .start⟩
  | @next _ t u _ _ steps turn _ hnext ih =>
      -- what is seen of the step that was made is the step that was seen
      obtain ⟨mid, rfl, hmid⟩ := ih
      rw [h.call, Option.map_eq_some_iff] at hnext
      obtain ⟨⟨turn', u', later⟩, hwide, hseen⟩ := hnext
      obtain ⟨rfl, rfl, rfl⟩ := hseen
      exact ⟨later, rfl, hmid.next hwide⟩
  | @within _ t u _ _ turn _ hadvance hturn hbroken ih =>
      obtain ⟨mid, rfl, hmid⟩ := ih
      rw [h.advance] at hadvance
      rcases hwide : t.advance wide mid with ⟨turn', u', later⟩
      rw [hwide] at hadvance
      obtain ⟨rfl, rfl, rfl⟩ := hadvance
      exact ⟨later, rfl, hmid.within hwide hturn hbroken⟩
  | @close _ t u _ _ answer _ hclose ih =>
      obtain ⟨mid, rfl, hmid⟩ := ih
      rw [Scan.close, h.exhaust] at hclose
      rcases hwide : t.exhaust wide mid with ⟨answer', u', later⟩
      rw [hwide] at hclose
      obtain ⟨rfl, rfl, rfl⟩ := hclose
      exact ⟨later, rfl, hmid.close hwide⟩

end Scan.Reaches

end SearchTables
