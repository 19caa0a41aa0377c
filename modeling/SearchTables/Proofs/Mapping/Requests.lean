import SearchTables.Proofs.Client.Attempts
import SearchTables.Mapping.Resolution

/-! # Resolving a schema asks for one mapping

A service may **note** for which indices a mapping was asked (`ClusterService.noted`). The scrolls of a
sample leave these notes alone, since a property that every scroll request preserves holds after a whole
sample (`SampleOrder.preserves_take`), so a resolution adds just one note (`asked_of_resolveSchema`). -/

namespace SearchTables

variable {τ α β : Type}

/-! ## What requests preserve -/

namespace Task

/-- Whether a task leaves a property of the state true, whatever it comes to. -/
def Preserves (P : τ → Prop) (x : Task τ α) : Prop := ∀ now, P now → P (x now).2

variable {P : τ → Prop}

/-- One task after another preserves what both do. -/
theorem Preserves.bind {x : Task τ α} {f : α → Task τ β} (hx : x.Preserves P)
    (hf : ∀ a, (f a).Preserves P) : (x >>= f).Preserves P := by
  intro now hnow
  have hleads := (leads_of_state hx).bind (fun a _ => leads_of_state (hf a)) fun _ h => h
  exact (hleads now hnow).state

/-- A task without requests preserves everything. -/
theorem preserves_pure (a : α) : (pure a : Task τ α).Preserves P := fun _ hnow => hnow

/-- A computation without requests preserves everything. -/
theorem preserves_lift (x : Except Error α) : (liftM x : Task τ α).Preserves P := by
  intro now hnow
  cases x <;> exact hnow

/-- A change of the state preserves what its function does. -/
theorem preserves_modify {f : τ → τ} (h : ∀ now, P now → P (f now)) :
    (modify f : Task τ Unit).Preserves P := h

end Task

/-- Whether every request of scrolls leaves a property of the state true. -/
structure ScrollService.Preserves (service : ScrollService τ) (P : τ → Prop) : Prop where
  start : ∀ q, (service.start q).Preserves P
  next : ∀ id keep, (service.next id keep).Preserves P
  release : ∀ id, (service.release id).Preserves P
  log : ∀ record now, P now → P (service.log record now)

section

variable {service : ScrollService τ} {P : τ → Prop} (hP : service.Preserves P)
include hP

/-- A fetch preserves what requests do. -/
theorem Cursor.preserves_fetch (c : Cursor) {now : τ} (hnow : P now) :
    P (c.fetch service now).2.2 := by
  rw [fetch]
  split
  · exact hnow
  · split
    · exact hP.start _ now hnow
    · split
      · exact hnow
      · exact hP.next _ _ now hnow

/-- Closing a cursor preserves what requests do. -/
theorem Cursor.preserves_close (c : Cursor) {now : τ} (hnow : P now) :
    P (c.close service now).2.2 := by
  rw [close]
  dsimp only
  split
  · exact hnow
  · split
    · exact hnow
    · rename_i id _
      have hrelease := hP.release id now hnow
      rcases h : service.release id now with ⟨e | done, later⟩
      · rwa [h] at hrelease
      · rwa [h] at hrelease

/-- Looking at documents preserves what requests do. -/
theorem Sampler.preserves_run (steps : Nat) (s : Sampler) {now : τ} (hnow : P now) :
    P (s.run service steps now).2.2 := by
  induction steps generalizing s now with
  | zero => exact hnow
  | succ steps ih =>
      rw [run]
      split
      · exact hnow
      · split
        · split
          · exact hnow
          · have hfetch := s.cursor.preserves_fetch hP hnow
            rcases h : s.cursor.fetch service now with ⟨e | count, c', later⟩
            · rwa [h] at hfetch
            · rw [h] at hfetch
              exact ih _ hfetch
        · dsimp only
          split
          · exact ih _ hnow
          · exact hnow

/-- The end of a sampling preserves what requests do. -/
theorem Sampler.preserves_tolerate (index : String) (seen : Nat) {now : τ} (hnow : P now)
    (outcome : Except Error Unit) : P (tolerate service index seen now outcome).2 := by
  cases outcome with
  | ok _ => exact hnow
  | error e =>
      rw [tolerate]
      split
      · exact hP.log _ now hnow
      · exact hnow

/-- A finished sample preserves what requests do. -/
theorem Sampler.preserves_finish (s : Sampler) : (s.finish service).Preserves P := by
  intro now hnow
  have hlater := s.preserves_run hP s.stepBound hnow
  rw [finish]
  rcases hrun : s.run service s.stepBound now with ⟨outcome, s', later⟩
  rw [hrun] at hlater
  dsimp only
  have hmid := preserves_tolerate hP s.cursor.search.index s'.sample.seen hlater outcome
  rcases htolerate : tolerate service s.cursor.search.index s'.sample.seen later outcome with
    ⟨outcome', mid⟩
  rw [htolerate] at hmid
  have hlast := s'.cursor.preserves_close hP hmid
  dsimp only
  rcases hclose : s'.cursor.close service mid with ⟨e | _, c', last⟩
  · rwa [hclose] at hlast
  · rw [hclose] at hlast
    cases outcome' with
    | error e => exact hlast
    | ok _ => exact hP.log _ last hlast

/-- **A sample preserves what requests do.** -/
theorem SampleOrder.preserves_take (order : SampleOrder) : (order.take service).Preserves P := by
  rw [take]
  split
  · exact Task.preserves_pure _
  · exact Sampler.preserves_finish hP _

end

/-! ## Notes -/

/-- The requests of scrolls beside something more in the state. -/
def ScrollService.beside (service : ScrollService τ) (ω : Type) : ScrollService (τ × ω) where
  start q := fun (now, more) =>
    let (answer, later) := service.start q now
    (answer, later, more)
  next id keep := fun (now, more) =>
    let (answer, later) := service.next id keep now
    (answer, later, more)
  release id := fun (now, more) =>
    let (answer, later) := service.release id now
    (answer, later, more)
  log record := fun (now, more) => (service.log record now, more)

/-- The service that notes for which indices a mapping was asked. -/
def ClusterService.noted (service : ClusterService τ) : ClusterService (τ × List String) where
  mapping index := fun (now, asked) =>
    let (answer, later) := service.mapping index now
    (answer, later, asked ++ [index])
  scrolls := service.scrolls.beside (List String)

/-- Scrolls leave alone what is beside them. -/
theorem ScrollService.preserves_beside (service : ScrollService τ) {ω : Type} (more : ω) :
    (service.beside ω).Preserves fun now => now.2 = more :=
  ⟨fun _ _ h => h, fun _ _ _ h => h, fun _ _ h => h, fun _ _ h => h⟩

/-- **Resolving a schema asks for one mapping**, that of the index. -/
theorem asked_of_resolveSchema (service : ClusterService τ) (index : String) (baseQuery : Option Json)
    (settings : ScanSettings) (now : τ) (asked : List String) :
    (resolveSchema service.noted index baseQuery settings (now, asked)).2.2 = asked ++ [index] := by
  have hscrolls : service.noted.scrolls.Preserves fun now => now.2 = asked ++ [index] :=
    service.scrolls.preserves_beside _
  -- past the mapping nothing is asked for, whatever the response was
  have hrest : ∀ response : Json, Task.Preserves (fun now : τ × List String => now.2 = asked ++ [index])
      (do
        let merged ← mergeMappings (← IndexMapping.ofResponse response)
        if merged.columns.isEmpty then do
          modify (service.noted.scrolls.log
            ⟨.resolution, .info, "index " ++ index ++ " declares no fields; exposing raw _source"⟩)
          pure (Schema.undeclared merged.mappedPaths)
        else do
          let sample ← (merged.sampleOrder index baseQuery settings).take service.noted.scrolls
          modify (service.noted.scrolls.log ⟨.resolution, .info, "resolved schema for " ++ index⟩)
          pure (merged.schema sample.arrays sample.hasUnmapped)) := by
    intro response
    refine (Task.preserves_lift _).bind fun mappings => (Task.preserves_lift _).bind fun merged => ?_
    split
    · exact (Task.preserves_modify (hscrolls.log _)).bind fun _ => Task.preserves_pure _
    · exact (SampleOrder.preserves_take hscrolls _).bind fun sample =>
        (Task.preserves_modify (hscrolls.log _)).bind fun _ => Task.preserves_pure _
  rcases hmapping : service.noted.mapping index (now, asked) with ⟨outcome, later⟩
  have hlater : later.2 = asked ++ [index] := congrArg (·.2.2) hmapping.symm
  cases outcome with
  | error e => rwa [resolveSchema, Task.bind_of_error hmapping]
  | ok response =>
      rw [resolveSchema, Task.bind_of_ok hmapping]
      exact hrest response later hlater

end SearchTables
