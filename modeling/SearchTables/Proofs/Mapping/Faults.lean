import SearchTables.Mapping.Resolution
import SearchTables.Proofs.Mapping.Sampling
import SearchTables.Proofs.Scan.Faults

/-! # Faults of a resolution — how a schema can fail to be resolved

The mapping of an index may be no mapping, and the mappings of several indices may conflict. After that
only the sample is left, and no failure of the cluster ends more than the sampling. What remains is a
hit that is no object: it has no document to look at, and the resolution fails with it
(`resolveSchema_ends`, `resolveSchema_of_bare`). -/

namespace SearchTables

variable {τ : Type}

/-! ## Samples -/

section

variable {service : ScrollService τ} {ready : τ → Prop} {kind : Json → Prop} {q : Search}

namespace Sampler

/-- A sampler does not look at a hit that is no object. -/
theorem look_of_bare {hit : Json} (hbare : ¬ hit.IsObject) (s : Sampler) :
    s.look hit = .error .noMembers := by
  unfold look
  split
  · exact absurd ⟨_, rfl⟩ hbare
  · rfl

/-- What becomes of a look at a hit of the kind. -/
theorem bare_of_look {hit : Json} {s : Sampler} {e : Error} (hkind : kind hit)
    (h : s.look hit = .error e) : Bare kind e := by
  by_cases hobject : hit.IsObject
  · obtain ⟨members, rfl⟩ := hobject
    cases h
  · obtain rfl := Except.error.inj ((look_of_bare hobject s).symm.trans h)
    exact .noMembers hkind hobject

/-- A look at a hit leaves the cursor alone. -/
theorem cursor_of_look {hit : Json} {s s' : Sampler} (h : s.look hit = .ok s') :
    s'.cursor = s.cursor := by
  unfold look at h
  split at h
  · obtain rfl := Except.ok.inj h
    rfl
  · cases h

/-- The loop fails because of the cluster or on a hit that is no object. The induction is on the
steps. -/
theorem fails_run (hservice : service.Answers ready kind q) (steps : Nat) {s : Sampler}
    (hholds : s.cursor.Holds q kind) {now : τ} (hnow : ready now) :
    ready (s.run service steps now).2.2 ∧
      ∀ e, (s.run service steps now).1 = .error e → e.OfCluster ∨ Bare kind e := by
  induction steps generalizing s now with
  | zero => exact ⟨hnow, fun e he => by cases he⟩
  | succ steps ih =>
      rw [run]
      split
      · exact ⟨hnow, fun e he => by cases he⟩
      rcases hpage : s.cursor.page with - | ⟨hit, rest⟩
      · dsimp only
        split
        · exact ⟨hnow, fun e he => by cases he⟩
        rcases hfetch : s.cursor.fetch service now with ⟨e | count, c', later⟩
        · obtain ⟨-, hlater, hfails⟩ := hholds.fetch hservice hnow hfetch
          refine ⟨hlater, fun e' he => .inl ?_⟩
          obtain rfl := Except.error.inj he
          exact hfails _ rfl
        · obtain ⟨hholds', hlater, -⟩ := hholds.fetch hservice hnow hfetch
          exact ih hholds' hlater
      · have hhits := hholds.hits
        rw [hpage] at hhits
        -- what is left of the page is still of the kind
        have hrest : Cursor.Holds { s.cursor with page := rest } q kind :=
          ⟨hholds.search, fun hit hmem => hhits hit (List.mem_cons_of_mem _ hmem)⟩
        dsimp only
        rcases hlook : look { s with cursor := { s.cursor with page := rest } } hit with e | s'
        · refine ⟨hnow, fun e' he => .inr ?_⟩
          obtain rfl := Except.error.inj he
          exact bare_of_look (hhits hit List.mem_cons_self) hlook
        · refine ih ?_ hnow
          rw [cursor_of_look hlook]
          exact hrest

/-- A failure of the cluster only ends the sampling. -/
theorem tolerated_of_ofCluster {e : Error} (h : e.OfCluster) : isTolerated e = true := by
  refine SampleOrder.isTolerated_iff.2 ?_
  rcases h with ⟨failure, rfl, -⟩ | hdecode
  · exact .inl rfl
  · exact .inr hdecode

/-- A failure of the cluster is tolerated, and one on a hit is not. -/
theorem ended_tolerate (hservice : service.Answers ready kind q) (index : String) (seen : Nat)
    {now : τ} (hnow : ready now) {outcome : Except Error Unit}
    (hfails : ∀ e, outcome = .error e → e.OfCluster ∨ Bare kind e) :
    Task.Ended ready (fun _ => True) (Bare kind) (tolerate service index seen now outcome) := by
  rcases outcome with e | _
  · rw [tolerate]
    split
    · exact .ok (hservice.log _ now hnow) trivial
    · rename_i htolerated
      exact .error hnow ((hfails e rfl).resolve_left (mt tolerated_of_ofCluster htolerated))
  · exact .ok hnow trivial

/-- **A sample fails only on a hit that is no object.** -/
theorem finish_ends (hservice : service.Answers ready kind q) {s : Sampler}
    (hholds : s.cursor.Holds q kind) :
    (s.finish service).Ends ready (fun _ => True) (Bare kind) := by
  intro now hnow
  obtain ⟨hlater, hfails⟩ := fails_run hservice s.stepBound hholds hnow
  rw [finish]
  rcases hrun : s.run service s.stepBound now with ⟨outcome, s', later⟩
  rw [hrun] at hlater hfails
  dsimp only
  have hended := ended_tolerate hservice s.cursor.search.index s'.sample.seen hlater hfails
  rcases htolerate : tolerate service s.cursor.search.index s'.sample.seen later outcome with
    ⟨outcome', mid⟩
  rw [htolerate] at hended
  obtain ⟨c', last, hclose, hlast⟩ := s'.cursor.close_of_answers hservice hended.state
  dsimp only
  rw [hclose]
  cases hended with
  | ok => exact .ok (hservice.log _ last hlast) trivial
  | error _ hbare => exact .error hlast hbare

end Sampler

/-- A sample fails only on a hit that is no object. -/
theorem SampleOrder.take_ends (order : SampleOrder)
    (hservice : service.Answers ready kind order.search) :
    (order.take service).Ends ready (fun _ => True) (Bare kind) := by
  rw [take]
  split
  · exact fun now hnow => .ok hnow trivial
  · refine Sampler.finish_ends hservice ⟨rfl, fun hit hmem => ?_⟩
    cases hmem

/-! ## The hit that ends a sample -/

/-- A sampler that goes on fails on a hit that is no object. -/
theorem Sampler.run_of_bare {s : Sampler} (hgoes : s.goesOn = true) {hit : Json} {rest : List Json}
    (hpage : s.cursor.page = hit :: rest) (hbare : ¬ hit.IsObject) (service : ScrollService τ)
    (steps : Nat) (now : τ) :
    ∃ s', s.run service (steps + 1) now = (.error .noMembers, s', now) := by
  rw [run, hgoes, hpage]
  simp only [look_of_bare hbare]
  exact ⟨_, rfl⟩

/-- The loop fails on a first hit that is no object. -/
theorem SampleOrder.run_of_bare {order : SampleOrder} (hsize : 0 < order.size) {now later : τ}
    {p : ScrollPage} {hit : Json} {rest : List Json}
    (hstart : service.start order.search now = (.ok p, later)) (hhits : p.hits = hit :: rest)
    (hbare : ¬ hit.IsObject) :
    ∃ s', order.sampler.run service order.sampler.stepBound now = (.error .noMembers, s', later) := by
  have hgoes : ∀ c, Sampler.goesOn { order.sampler with cursor := c } = true := by
    intro c
    simp [Sampler.goesOn, sampler, hsize]
  have hfetch : order.sampler.cursor.fetch service now =
      (.ok p.hits.length, Cursor.receive { order.sampler.cursor with opened := true } p, later) := by
    rw [Cursor.fetch_opens rfl rfl hstart]
    rfl
  have hpage : (Cursor.receive { order.sampler.cursor with opened := true } p).page = hit :: rest := by
    simp [sampler, Cursor.receive, hhits]
  obtain ⟨s', hlooked⟩ := Sampler.run_of_bare (hgoes _) hpage hbare service
    (2 * order.size.toNat + 1) later
  refine ⟨s', ?_⟩
  -- the first step fetches the page, and the second one looks at the hit
  have hbound : order.sampler.stepBound = 2 * order.size.toNat + 1 + 1 + 1 := rfl
  have hempty : order.sampler.cursor.page = [] := rfl
  have hexhausted : order.sampler.cursor.exhausted = false := rfl
  rw [hbound, Sampler.run, hgoes order.sampler.cursor]
  simp only [hempty, hexhausted, hfetch]
  exact hlooked

/-- **A sample whose first hit is no object fails**, although a failure of the cluster would only end
it. -/
theorem SampleOrder.take_of_bare {order : SampleOrder}
    (hservice : service.Answers ready kind order.search) (hsize : 0 < order.size)
    (hpaths : order.paths ≠ []) {now later : τ} (hnow : ready now) {p : ScrollPage} {hit : Json}
    {rest : List Json} (hstart : service.start order.search now = (.ok p, later))
    (hhits : p.hits = hit :: rest) (hbare : ¬ hit.IsObject) :
    ∃ last, order.take service now = (.error .noMembers, last) := by
  obtain ⟨s', hrun⟩ := run_of_bare hsize hstart hhits hbare
  have hstarted := (hservice.start now hnow).state
  rw [hstart] at hstarted
  obtain ⟨c', last, hclose, -⟩ := s'.cursor.close_of_answers hservice hstarted
  refine ⟨last, ?_⟩
  rw [take_eq hsize hpaths, Sampler.finish, hrun]
  dsimp only [Sampler.tolerate]
  rw [if_neg (by decide)]
  simp only [hclose]

end

/-! ## Mappings -/

namespace IndexMapping

/-- An entry that cannot be read has a wrong shape. -/
theorem decode_of_ofEntry {index : String} {entry : Json} {e : Error}
    (h : ofEntry index entry = .error e) : e.family = .decode := by
  unfold ofEntry at h
  split at h
  · cases h
  · obtain rfl := Except.error.inj h
    rfl

/-- Entries that cannot be read have a wrong shape. The induction is on the entries. -/
theorem decode_of_ofEntries {entries : List (String × Json)} {e : Error}
    (h : ofEntries entries = .error e) : e.family = .decode := by
  induction entries with
  | nil => cases h
  | cons entry rest ih =>
      obtain ⟨index, entry⟩ := entry
      rw [ofEntries, bind_eq_error] at h
      obtain hentry | ⟨mapping, -, h⟩ := h
      · exact decode_of_ofEntry hentry
      obtain hrest | ⟨mappings, -, h⟩ := bind_eq_error.1 h
      · exact ih hrest
      · cases h

/-- A response that cannot be read as mappings has a wrong shape. -/
theorem decode_of_ofResponse {response : Json} {e : Error} (h : ofResponse response = .error e) :
    e.family = .decode := by
  unfold ofResponse at h
  split at h
  · exact decode_of_ofEntries h
  · obtain rfl := Except.error.inj h
    rfl

end IndexMapping

namespace MergeState

/-- A field that cannot be taken up conflicts with a column. -/
theorem conflict_of_addField {s : MergeState} {index : String} {f : Field} {e : Error}
    (h : s.addField index f = .error e) : e.family = .schemaConflict := by
  unfold addField at h
  split at h
  · cases h
  · split at h
    · cases h
    · obtain rfl := Except.error.inj h
      rfl

/-- Fields that cannot be taken up conflict with columns. -/
theorem conflict_of_addFields {s : MergeState} {index : String} {fields : List Field} {e : Error}
    (h : s.addFields index fields = .error e) : e.family = .schemaConflict := by
  induction fields generalizing s with
  | nil => cases h
  | cons f rest ih =>
      rw [addFields] at h
      split at h
      · exact ih h
      · rename_i hfield
        obtain rfl := Except.error.inj h
        exact conflict_of_addField hfield

/-- Indices that cannot be taken up conflict. -/
theorem conflict_of_addIndices {s : MergeState} {mappings : List IndexMapping} {e : Error}
    (h : s.addIndices mappings = .error e) : e.family = .schemaConflict := by
  induction mappings generalizing s with
  | nil => cases h
  | cons mapping rest ih =>
      rw [addIndices] at h
      split at h
      · exact ih h
      · rename_i hindex
        obtain rfl := Except.error.inj h
        exact conflict_of_addFields hindex

end MergeState

/-- Mappings that cannot be merged conflict. -/
theorem conflict_of_mergeMappings {mappings : List IndexMapping} {e : Error}
    (h : mergeMappings mappings = .error e) : e.family = .schemaConflict := by
  rw [mergeMappings, map_eq_error] at h
  exact MergeState.conflict_of_addIndices h

/-! ## Resolutions -/

/-- The search of a sample. What the mapping says does not matter for it. -/
def sampleSearch (index : String) (baseQuery : Option Json) (settings : ScanSettings) : Search :=
  ((default : MergedMapping).sampleOrder index baseQuery settings).search

/-- A cluster **answers** a resolution with hits of a kind: its requests fail only because of the
cluster. -/
structure ClusterService.Answers (service : ClusterService τ) (ready : τ → Prop) (kind : Json → Prop)
    (index : String) (baseQuery : Option Json) (settings : ScanSettings) : Prop where
  mapping : (service.mapping index).Ends ready (fun _ => True) Error.OfCluster
  scrolls : service.scrolls.Answers ready kind (sampleSearch index baseQuery settings)

/-- What a resolution can fail with, on hits of a kind. -/
inductive ResolutionFault (kind : Json → Prop) : Error → Prop where
  /-- The cluster failed. -/
  | cluster {e : Error} (h : e.OfCluster) : ResolutionFault kind e
  /-- The mappings conflict. -/
  | conflict {e : Error} (h : e.family = .schemaConflict) : ResolutionFault kind e
  /-- A hit is no object. -/
  | bare {e : Error} (h : Bare kind e) : ResolutionFault kind e

section

variable {service : ClusterService τ} {ready : τ → Prop} {kind : Json → Prop} {index : String}
  {baseQuery : Option Json} {settings : ScanSettings}

/-- Once the mappings are merged, only a hit that is no object is at fault. -/
theorem schema_ends (hscrolls : service.scrolls.Answers ready kind (sampleSearch index baseQuery settings))
    {response : Json} {mappings : List IndexMapping} {m : MergedMapping}
    (hmappings : IndexMapping.ofResponse response = .ok mappings) (hm : mergeMappings mappings = .ok m)
    {now later : τ} (hmapping : service.mapping index now = (.ok response, later)) (hlater : ready later) :
    Task.Ended ready (fun _ => True) (Bare kind)
      (resolveSchema service index baseQuery settings now) := by
  rw [resolveSchema, Task.bind_of_ok hmapping, Task.bind_lift_of_ok hmappings, Task.bind_lift_of_ok hm]
  by_cases hcolumns : m.columns.isEmpty = true
  · rw [if_pos hcolumns]
    exact .ok (hscrolls.log _ later hlater) trivial
  · rw [if_neg hcolumns]
    have hsample : ((m.sampleOrder index baseQuery settings).take service.scrolls).Ends ready
        (fun _ => True) (Bare kind) := SampleOrder.take_ends _ hscrolls
    refine hsample.bind (fun sample _ => ?_) later hlater
    exact fun mid hmid => .ok (hscrolls.log _ mid hmid) trivial

/-- **A resolution whose sample starts with a hit that is no object fails.** -/
theorem resolveSchema_of_bare
    (hscrolls : service.scrolls.Answers ready kind (sampleSearch index baseQuery settings))
    {response : Json} {mappings : List IndexMapping} {m : MergedMapping}
    (hmappings : IndexMapping.ofResponse response = .ok mappings) (hm : mergeMappings mappings = .ok m)
    (hcolumns : m.columns ≠ []) (hpaths : m.trackablePaths ≠ []) (hsize : 0 < settings.sampleSize)
    {now mid later : τ} (hmapping : service.mapping index now = (.ok response, mid)) (hmid : ready mid)
    {p : ScrollPage} {hit : Json} {rest : List Json}
    (hstart : service.scrolls.start (sampleSearch index baseQuery settings) mid = (.ok p, later))
    (hhits : p.hits = hit :: rest) (hbare : ¬ hit.IsObject) :
    ∃ last, resolveSchema service index baseQuery settings now = (.error .noMembers, last) := by
  have hsample : service.scrolls.Answers ready kind (m.sampleOrder index baseQuery settings).search :=
    hscrolls
  obtain ⟨last, htake⟩ := SampleOrder.take_of_bare hsample hsize hpaths hmid hstart hhits hbare
  rw [resolveSchema, Task.bind_of_ok hmapping, Task.bind_lift_of_ok hmappings, Task.bind_lift_of_ok hm,
    if_neg (by simpa using hcolumns), Task.bind_of_error htake]
  exact ⟨last, rfl⟩

/-- **A resolution fails because of the cluster, on a conflict, or on a hit that is no object.** -/
theorem resolveSchema_ends (hservice : service.Answers ready kind index baseQuery settings) :
    (resolveSchema service index baseQuery settings).Ends ready (fun _ => True)
      (ResolutionFault kind) := by
  intro now hnow
  have hended := hservice.mapping now hnow
  rcases hmapping : service.mapping index now with ⟨e | response, later⟩
  · rw [hmapping] at hended
    rw [resolveSchema, Task.bind_of_error hmapping]
    exact .error hended.state (.cluster (hended.bad_of_error rfl))
  · rw [hmapping] at hended
    have hlater : ready later := hended.state
    rcases hmappings : IndexMapping.ofResponse response with e | mappings
    · rw [resolveSchema, Task.bind_of_ok hmapping, Task.bind_lift_of_error hmappings]
      exact .error hlater (.cluster (.inr (IndexMapping.decode_of_ofResponse hmappings)))
    rcases hm : mergeMappings mappings with e | m
    · rw [resolveSchema, Task.bind_of_ok hmapping, Task.bind_lift_of_ok hmappings,
        Task.bind_lift_of_error hm]
      exact .error hlater (.conflict (conflict_of_mergeMappings hm))
    · exact (schema_ends hservice.scrolls hmappings hm hmapping hlater).mono (fun _ h => h)
        fun _ h => .bare h

end

end SearchTables
