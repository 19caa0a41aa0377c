import SearchTables.Proofs.Scan.Separation
import Mathlib.Logic.Function.Basic

/-! # Interleaving — scans that share a service

Several scans may share a service, and their calls come in any order. If the service separates its
scrolls, what the calls of one of them come to is a matter of these calls alone, whatever the others do in
between (`Scan.of_interleave`): every call comes to what it comes to on a service of one scroll, by
induction on the calls. So a scan that shares returns the rows that it returns alone, and no other
scan releases a scroll of its own (`Scan.interleave_eq_alone`). -/

namespace SearchTables

variable {τ ι α : Type} [DecidableEq ι]

/-- The share of one in a list of things that belong to several. -/
def share (k : ι) (l : List (ι × α)) : List α :=
  l.filterMap fun (owner, x) => if owner = k then some x else none

/-- The share in a list that is put together. -/
theorem share_append (k : ι) (l l' : List (ι × α)) : share k (l ++ l') = share k l ++ share k l' :=
  List.filterMap_append ..

/-- What belongs to one is in its share. -/
@[simp] theorem share_cons_self (k : ι) (x : α) (l : List (ι × α)) :
    share k ((k, x) :: l) = x :: share k l := by
  simp [share]

/-- What belongs to another is not. -/
theorem share_cons_of_ne {k k' : ι} (h : k' ≠ k) (x : α) (l : List (ι × α)) :
    share k ((k', x) :: l) = share k l := by
  simp [share, h]

namespace Scan

/-! ## Calls -/

/-- A call of a scan: for its next row, within a number of steps, or to end it. -/
inductive Call where
  | next (steps : Nat)
  | close

/-- What a call comes to. -/
inductive Outcome where
  | turn (turn : Turn)
  | closed (answer : Except Error Unit)

/-- Call a scan. Nothing when the steps are not enough. -/
def call (service : ScrollService τ) (s : Scan) (state : τ) : Call → Option (Outcome × Scan × τ)
  | .next steps =>
      (s.next service steps state).map fun (turn, s, state) => (.turn turn, s, state)
  | .close =>
      let (answer, s, state) := s.close service state
      some (.closed answer, s, state)

/-- Call a scan several times. -/
def callAll (service : ScrollService τ) : List Call → Scan → τ → Option (List Outcome × Scan × τ)
  | [], s, state => some ([], s, state)
  | call :: calls, s, state =>
      (s.call service state call).bind fun (outcome, s, state) =>
        (callAll service calls s state).map fun (outcomes, s, state) =>
          (outcome :: outcomes, s, state)

/-- **Several scans that share a service** are called in some order. The service keeps a record of who made
which exchange. -/
def interleave (service : ScrollService τ) : List (ι × Call) → (ι → Scan) →
    τ × List (ι × Exchange) →
      Option (List (ι × Outcome) × (ι → Scan) × τ × List (ι × Exchange))
  | [], scans, w => some ([], scans, w)
  | (k, call) :: calls, scans, w =>
      ((scans k).call (service.recordedBy k) w call).bind fun (outcome, s, w) =>
        (interleave service calls (Function.update scans k s) w).map fun (outcomes, scans, w) =>
          ((k, outcome) :: outcomes, scans, w)

/-! ## The calls of one scan among those of others -/

section Separates

variable {b : Ledger τ} {searches : Set Search} {k : ι} {s : Scan} {scans : ι → Scan}
  {w w' : τ × List (ι × Exchange)} {u : Option ScrollAnswers} {held : ι → Option ScrollAnswers}
  {service : ScrollService τ} {opening : Search → ScrollAnswers} {closing : Except Error Unit}

omit [DecidableEq ι] in
/-- **A call comes to what it comes to on a service of one scroll.** -/
theorem Held.call (hs : service.Separates b searches opening closing)
    (h : s.Held b searches k w u) (hsound : b.Sound w) (call : Call) :
    Option.Rel (Simulates b k (Held b searches k) anonymous w) (s.call (service.recordedBy k) w call)
      (s.anonymous.call (.sole opening closing) u call) := by
  cases call with
  | next steps =>
      have hnext := h.next hs hsound steps
      rw [Scan.call, Scan.call]
      generalize s.next (service.recordedBy k) steps w = shared at hnext ⊢
      generalize s.anonymous.next (.sole opening closing) steps u = sole at hnext ⊢
      cases hnext with
      | none => exact .none
      | some hnext =>
          obtain ⟨hheld, hgoes⟩ := hnext
          exact .some (.intro hheld hgoes)
  | close =>
      have hclose := h.exhaust hs hsound
      rw [Scan.call, Scan.call, Scan.close, Scan.close]
      generalize s.exhaust (service.recordedBy k) w = shared at hclose ⊢
      generalize s.anonymous.exhaust (.sole opening closing) u = sole at hclose ⊢
      obtain ⟨hheld, hgoes⟩ := hclose
      exact .some (.intro hheld hgoes)

omit [DecidableEq ι] in
/-- **So do several calls**, one after the other. The induction is on the calls. -/
theorem Held.callAll (hs : service.Separates b searches opening closing)
    (h : s.Held b searches k w u) (hsound : b.Sound w) (calls : List Call) :
    Option.Rel (Simulates b k (Held b searches k) anonymous w)
      (s.callAll (service.recordedBy k) calls w) (s.anonymous.callAll (.sole opening closing) calls u) := by
  induction calls generalizing s w u with
  | nil => exact .some (.intro h (.refl hsound))
  | cons call calls ih =>
      have hcall := h.call hs hsound call
      rw [Scan.callAll, Scan.callAll]
      generalize s.call (service.recordedBy k) w call = shared at hcall ⊢
      generalize s.anonymous.call (.sole opening closing) u call = sole at hcall ⊢
      cases hcall with
      | none => exact .none
      | some hcall =>
          obtain @⟨outcome, t, w', u', hheld, hgoes⟩ := hcall
          -- what comes after starts from the states that the first call leaves
          have hrest := ih hheld hgoes.sound
          dsimp only [Option.bind_some]
          generalize t.callAll (service.recordedBy k) calls w' = shared at hrest ⊢
          generalize t.anonymous.callAll (.sole opening closing) calls u' = sole at hrest ⊢
          cases hrest with
          | none => exact .none
          | some hrest =>
              obtain ⟨hheld', hgoes'⟩ := hrest
              exact .some (.intro hheld' (hgoes.trans hgoes'))

omit [DecidableEq ι] in
/-- Calls do not come to an end if they do not on a service of one scroll. -/
theorem Held.callAll_eq_none (hs : service.Separates b searches opening closing)
    (h : s.Held b searches k w u) (hsound : b.Sound w) {calls : List Call}
    (hsole : s.anonymous.callAll (.sole opening closing) calls u = none) :
    s.callAll (service.recordedBy k) calls w = none := by
  have hcalls := h.callAll hs hsound calls
  rw [hsole] at hcalls
  generalize s.callAll (service.recordedBy k) calls w = shared at hcalls ⊢
  cases hcalls
  rfl

omit [DecidableEq ι] in
/-- Calls come to what they come to on a service of one scroll, and the scan ends in the same state but
for the name of its scroll. -/
theorem Held.exists_callAll (hs : service.Separates b searches opening closing)
    (h : s.Held b searches k w u) (hsound : b.Sound w) {calls : List Call} {outcomes : List Outcome}
    {t : Scan} {u' : Option ScrollAnswers}
    (hsole : s.anonymous.callAll (.sole opening closing) calls u = some (outcomes, t, u')) :
    ∃ s' w', s.callAll (service.recordedBy k) calls w = some (outcomes, s', w') ∧
      s'.anonymous = t := by
  have hcalls := h.callAll hs hsound calls
  rw [hsole] at hcalls
  generalize s.callAll (service.recordedBy k) calls w = shared at hcalls ⊢
  cases hcalls with
  | some hcalls =>
      obtain ⟨-, -⟩ := hcalls
      exact ⟨_, _, rfl, rfl⟩

/-- What one goes on with is held of it afterwards, and what was held of the others still is. -/
theorem held_update (h : ∀ i, (scans i).Held b searches i w (held i)) (hs : s.Held b searches k w' u)
    (hgoes : b.Goes k w w') (i : ι) :
    (Function.update scans k s i).Held b searches i w' (Function.update held k u i) := by
  by_cases hi : i = k
  · subst hi
    rw [Function.update_self, Function.update_self]
    exact hs
  · rw [Function.update_of_ne hi, Function.update_of_ne hi]
    exact (h i).of_goes hi hgoes

/-- The calls of each scan, when one of them is called first. -/
theorem callAll_share_cons {sole : ScrollService (Option ScrollAnswers)} {call : Call} {outcome : Outcome}
    (hcall : (scans k).anonymous.call sole (held k) call = some (outcome, s.anonymous, u))
    (calls : List (ι × Call)) (i : ι) :
    (scans i).anonymous.callAll sole (share i ((k, call) :: calls)) (held i) =
      ((Function.update scans k s i).anonymous.callAll sole (share i calls)
        (Function.update held k u i)).map fun (outcomes, t, u) =>
          (share i [(k, outcome)] ++ outcomes, t, u) := by
  by_cases hi : i = k
  · subst hi
    rw [Function.update_self, Function.update_self, share_cons_self, share_cons_self, callAll, hcall]
    rfl
  · rw [Function.update_of_ne hi, Function.update_of_ne hi, share_cons_of_ne (Ne.symm hi),
      share_cons_of_ne (Ne.symm hi)]
    exact Option.map_id'.symm

/-- **What the calls of a scan among those of others come to is a matter of these calls**: they come to the
same on a service of one scroll. The induction is on the calls of all. -/
theorem of_interleave (hs : service.Separates b searches opening closing)
    (h : ∀ k, (scans k).Held b searches k w (held k)) (hsound : b.Sound w)
    (calls : List (ι × Call)) :
    (interleave service calls scans w = none →
      ∃ k, (scans k).anonymous.callAll (.sole opening closing) (share k calls) (held k) = none) ∧
    ∀ {outcomes scans' w'}, interleave service calls scans w = some (outcomes, scans', w') →
      b.Sound w' ∧ ∀ k, ∃ u,
        (scans k).anonymous.callAll (.sole opening closing) (share k calls) (held k) =
          some (share k outcomes, (scans' k).anonymous, u) := by
  induction calls generalizing scans w held with
  | nil =>
      refine ⟨fun hnone => (by cases hnone), fun hsome => ?_⟩
      cases hsome
      exact ⟨hsound, fun k => ⟨held k, rfl⟩⟩
  | cons first calls ih =>
      obtain ⟨k, call⟩ := first
      have hcall := (h k).call hs hsound call
      rw [interleave]
      generalize (scans k).call (service.recordedBy k) w call = shared at hcall ⊢
      rcases hsole : (scans k).anonymous.call (.sole opening closing) (held k) call with
        - | ⟨outcome, s', u⟩
      · -- this scan alone has too few steps for its call
        rw [hsole] at hcall
        cases hcall
        refine ⟨fun _ => ⟨k, ?_⟩, fun hsome => (by cases hsome)⟩
        rw [share_cons_self, callAll, hsole]
        rfl
      · rw [hsole] at hcall
        obtain ⟨⟨hheld, hgoes⟩⟩ := hcall
        -- the call leaves what is held of the others, so the hypothesis covers the calls that come next
        have hreplay := callAll_share_cons hsole calls
        obtain ⟨hnone, hsome⟩ := ih (held_update h hheld hgoes) hgoes.sound
        dsimp only [Option.bind_some]
        constructor
        · intro hbad
          obtain ⟨i, hi⟩ := hnone (Option.map_eq_none_iff.1 hbad)
          refine ⟨i, ?_⟩
          rw [hreplay, hi]
          rfl
        · intro outcomes scans' w' hgood
          obtain ⟨⟨rest, scans'', w''⟩, hrest, heq⟩ := Option.map_eq_some_iff.1 hgood
          cases heq
          obtain ⟨hsound', hall⟩ := hsome hrest
          refine ⟨hsound', fun i => ?_⟩
          obtain ⟨u', hi⟩ := hall i
          refine ⟨u', ?_⟩
          rw [hreplay, hi]
          exact congrArg (fun outcomes => some (outcomes, _, _)) (share_append i [(k, outcome)] rest).symm

/-- **Scans that share a service do not disturb each other**, in whatever order they are called: each of
them returns what it returns when it is called alone, and ends in the same state but for the name of its
scroll, if it still has one. A scroll is released by no one but the scan that its id came to. If calls do
not come to an end within their steps, those of one of the scans alone do not either. -/
theorem interleave_eq_alone (hs : service.Separates b searches opening closing)
    (hsearch : ∀ k, (scans k).search ∈ searches) (hfresh : ∀ k, (scans k).cursor = none)
    {state state' : τ} (hready : b.ready state) (hready' : b.ready state')
    (calls : List (ι × Call)) :
    (interleave service calls scans (state, []) = none →
      ∃ k, (scans k).callAll (service.recordedBy k) (share k calls) (state', []) = none) ∧
    ∀ {outcomes scans' w}, interleave service calls scans (state, []) = some (outcomes, scans', w) →
      (∀ k, ∃ s w', (scans k).callAll (service.recordedBy k) (share k calls) (state', []) =
        some (share k outcomes, s, w') ∧ s.anonymous = (scans' k).anonymous ∧
          ((∀ {c}, s.cursor = some c → c.scrollId = none) → s = scans' k)) ∧
      ∀ {k id answer}, (k, .released id answer) ∈ w.2 → ∀ k', Issued w.2 k' id ↔ k' = k := by
  have hheld : ∀ {w : τ × List (ι × Exchange)} k, (scans k).Held b searches k w none := fun k =>
    ⟨hsearch k, fun hcursor => absurd ((hfresh k).symm.trans hcursor) (by simp)⟩
  obtain ⟨hnone, hsome⟩ := of_interleave hs hheld (Ledger.sound_of_ready hready) calls
  -- alone or among others, the calls come to what they come to on a service of one scroll
  have hsound' : b.Sound (state', ([] : List (ι × Exchange))) := Ledger.sound_of_ready hready'
  constructor
  · intro hbad
    obtain ⟨k, hk⟩ := hnone hbad
    exact ⟨k, (hheld k).callAll_eq_none hs hsound' hk⟩
  · intro outcomes scans' w hgood
    obtain ⟨hsound, hall⟩ := hsome hgood
    refine ⟨fun k => ?_, fun {k id answer} hmem k' => ?_⟩
    · obtain ⟨u, hk⟩ := hall k
      obtain ⟨s, w', hcalls, hsame⟩ := (hheld k).exists_callAll hs hsound' hk
      exact ⟨s, w', hcalls, hsame, eq_of_anonymous_eq hsame⟩
    · have hissued := hsound.released hmem
      exact ⟨fun h => hsound.unique hissued h, fun h => h ▸ hissued⟩

end Separates

end Scan

end SearchTables
