import SearchTables.Session
import SearchTables.Proofs.Mapping.Requests
import SearchTables.Proofs.Session.CacheKey

/-! # Sessions that share a cache

A group of sessions binds indices, changes settings and clears the cache that all of them use, in any order.
What the cache holds under a key is at every moment what the **history** of the group left there
(`get?_run`): the schema of the last bind that resolved one under the key, unless the cache was wiped
since. In a group of one user the keys tell where a schema comes from, so a bind that asks for no mapping
returns what the latest bind like it resolved (`hit_returns_latest`). -/

namespace SearchTables

/-! ## One bind -/

namespace Session

variable {τ : Type} {s : Session} {service : ClusterService τ} {index : String} {query : Json}
  {cache cache' : SchemaCache} {now : τ} {asked' : List String} {later : τ}
  {outcome : Except Error BoundIndex}

/-- **What a bind comes to**: it fails and leaves the cache alone, or it takes the schema from the cache
and asks for nothing, or it asks for the mapping and keeps the schema that it resolves. -/
theorem bind_cases (h : s.bind service.noted index query cache (now, []) =
    (outcome, cache', later, asked')) :
    (∃ e, outcome = .error e ∧ cache' = cache) ∨
      ∃ q schema, readBaseQuery query = .ok q ∧ outcome = .ok ⟨index, schema, q⟩ ∧
        (asked' = [] ∧ cache.get? (s.key index q) = some schema ∧ cache' = cache ∨
          asked' = [index] ∧ cache' = cache.put (s.key index q) schema) := by
  rw [bind] at h
  split at h
  · exact .inl ⟨_, (Prod.mk.inj h).1.symm, (Prod.mk.inj (Prod.mk.inj h).2).1.symm⟩
  split at h
  · exact .inl ⟨_, (Prod.mk.inj h).1.symm, (Prod.mk.inj (Prod.mk.inj h).2).1.symm⟩
  rename_i q hquery
  rw [bindChecked] at h
  split at h
  · rename_i schema hheld
    obtain ⟨houtcome, hrest⟩ := Prod.mk.inj h
    obtain ⟨hcache, hstate⟩ := Prod.mk.inj hrest
    exact .inr ⟨q, schema, hquery, houtcome.symm, .inl ⟨(congrArg Prod.snd hstate).symm, hheld,
      hcache.symm⟩⟩
  · -- nothing is held, so the schema is resolved
    have hasked := asked_of_resolveSchema service index q s.settings now []
    split at h
    · exact .inl ⟨_, (Prod.mk.inj h).1.symm, (Prod.mk.inj (Prod.mk.inj h).2).1.symm⟩
    · rename_i schema state hresolve
      obtain ⟨houtcome, hrest⟩ := Prod.mk.inj h
      obtain ⟨hcache, hstate⟩ := Prod.mk.inj hrest
      rw [hresolve, hstate] at hasked
      exact .inr ⟨q, schema, hquery, houtcome.symm, .inr ⟨hasked, hcache.symm⟩⟩

/-- **What a change of settings comes to**: it fails and leaves the cache alone, or it wipes the cache
just when the sample size is another one. -/
theorem updateSettings_cases {log : LogRecord → τ → τ} {changes : List (String × Json)}
    {outcome : Except Error Session} (h : s.updateSettings log changes cache now =
      (outcome, cache', later)) :
    (∃ e, outcome = .error e ∧ cache' = cache) ∨
      ∃ s', outcome = .ok s' ∧ s'.connection = s.connection ∧
        cache' = if s'.settings.sampleSize = s.settings.sampleSize then cache else cache.clear := by
  rw [updateSettings] at h
  split at h
  · exact .inl ⟨_, (Prod.mk.inj h).1.symm, (Prod.mk.inj (Prod.mk.inj h).2).1.symm⟩
  · rename_i settings _
    split at h
    · rename_i hsame
      obtain ⟨houtcome, hrest⟩ := Prod.mk.inj h
      refine .inr ⟨_, houtcome.symm, rfl, ?_⟩
      rw [if_pos hsame]
      exact (Prod.mk.inj hrest).1.symm
    · rename_i hother
      obtain ⟨houtcome, hrest⟩ := Prod.mk.inj h
      refine .inr ⟨_, houtcome.symm, rfl, ?_⟩
      rw [if_neg hother]
      exact (Prod.mk.inj hrest).1.symm

end Session

/-! ## Groups -/

/-- Sessions with one cache: how each is connected, and the cluster that it reaches. -/
structure SessionGroup (ι τ : Type) where
  connection : ι → Connection
  service : ι → ClusterService τ

namespace SessionGroup

/-- Where a group is: the settings of each session, the cache, and the state of the clusters. -/
structure State (ι τ : Type) where
  settings : ι → ScanSettings
  cache : SchemaCache
  world : τ

/-- What is asked of one of the sessions. -/
inductive Call (ι : Type) where
  | bind (who : ι) (index : String) (query : Json)
  | update (who : ι) (changes : List (String × Json))
  | clear

/-- What a session did. -/
inductive Deed (ι : Type) where
  /-- A bind, with the sample size of the session and the indices for which a mapping was asked. -/
  | bound (who : ι) (sampleSize : Int) (index : String) (query : Json) (asked : List String)
      (outcome : Except Error BoundIndex)
  /-- A change of settings, with the settings before it. -/
  | updated (who : ι) (before : ScanSettings) (outcome : Except Error Session)
  | cleared

variable {ι τ : Type} (g : SessionGroup ι τ)

/-- A session of the group. -/
def session (s : State ι τ) (who : ι) : Session := ⟨g.connection who, s.settings who⟩

section

variable [DecidableEq ι]

/-- The group after a call. -/
def step (s : State ι τ) : Call ι → Deed ι × State ι τ
  | .bind who index query =>
      let (outcome, cache, world, asked) :=
        (g.session s who).bind (g.service who).noted index query s.cache (s.world, [])
      (.bound who (s.settings who).sampleSize index query asked outcome, { s with cache, world })
  | .update who changes =>
      let (outcome, cache, world) := (g.session s who).updateSettings (g.service who).scrolls.log changes
        s.cache s.world
      let settings := match outcome with
        | .ok session => fun i => if i = who then session.settings else s.settings i
        | .error _ => s.settings
      (.updated who (s.settings who) outcome, { settings, cache, world })
  | .clear => (.cleared, { s with cache := s.cache.clear })

/-- The group after calls, and what was done. -/
def run (s : State ι τ) : List (Call ι) → List (Deed ι) × State ι τ
  | [] => ([], s)
  | call :: calls =>
      let (deed, s) := g.step s call
      let (deeds, s) := run s calls
      (deed :: deeds, s)

end

/-! ## What the history leaves in the cache -/

/-- Whether a deed wipes the cache. -/
def Deed.wipes : Deed ι → Bool
  | .bound .. => false
  | .updated _ before (.ok after) => after.settings.sampleSize != before.sampleSize
  | .updated _ _ (.error _) => false
  | .cleared => true

/-- What a deed puts into the cache: a bind that asked for a mapping, the schema that it returned. -/
def kept? : Deed ι → Option (String × Schema)
  | .bound who sampleSize index query (_ :: _) (.ok bound) =>
      match readBaseQuery query with
      | .ok q => some (cacheKey (g.connection who) index q sampleSize, bound.schema)
      | .error _ => none
  | _ => none

/-- What is held under a key after a deed. -/
def leaves (key : String) (held : Option Schema) (deed : Deed ι) : Option Schema :=
  if deed.wipes then none
  else
    match g.kept? deed with
    | some (k, schema) => if key = k then some schema else held
    | none => held

variable {g} {s s' : State ι τ} {deed : Deed ι}

/-- **What is held under a key after a call** is what was held before it and what the deed left there. -/
theorem get?_step [DecidableEq ι] {call : Call ι} (h : g.step s call = (deed, s')) (key : String) :
    s'.cache.get? key = g.leaves key (s.cache.get? key) deed := by
  cases call with
  | bind who index query =>
      rcases hbind : (g.session s who).bind (g.service who).noted index query s.cache (s.world, []) with
        ⟨outcome, cache, world, asked⟩
      rw [step, hbind] at h
      obtain ⟨rfl, rfl⟩ := Prod.mk.inj h
      rcases Session.bind_cases hbind with ⟨e, rfl, rfl⟩ | ⟨q, schema, hquery, rfl, hcase⟩
      · cases asked <;> rfl
      · rcases hcase with ⟨rfl, hheld, rfl⟩ | ⟨rfl, rfl⟩
        · rfl
        · -- the schema is kept under its own key, and what is held under another one stays
          have hkept : g.kept? (.bound who (s.settings who).sampleSize index query [index]
              (.ok ⟨index, schema, q⟩)) = some ((g.session s who).key index q, schema) := by
            rw [kept?, hquery]
            rfl
          rw [leaves, hkept]
          by_cases hkey : key = (g.session s who).key index q
          · subst hkey
            simp [Deed.wipes]
          · simp [Deed.wipes, hkey, SchemaCache.get?_put_of_ne]
  | update who changes =>
      rcases hupdate : (g.session s who).updateSettings (g.service who).scrolls.log changes s.cache
        s.world with ⟨outcome, cache, world⟩
      rw [step, hupdate] at h
      obtain ⟨rfl, rfl⟩ := Prod.mk.inj h
      rcases Session.updateSettings_cases hupdate with ⟨e, rfl, rfl⟩ | ⟨s', rfl, -, rfl⟩
      · rfl
      · by_cases hsame : s'.settings.sampleSize = (s.settings who).sampleSize
        · simp [leaves, Deed.wipes, kept?, session, hsame]
        · simp [leaves, Deed.wipes, session, hsame]
  | clear =>
      rw [step] at h
      obtain ⟨rfl, rfl⟩ := Prod.mk.inj h
      rfl

/-- **What is held under a key after a run** is what its deeds left there, one after another. -/
theorem get?_run [DecidableEq ι] {calls : List (Call ι)} {history : List (Deed ι)}
    (h : g.run s calls = (history, s')) (key : String) :
    s'.cache.get? key = history.foldl (g.leaves key) (s.cache.get? key) := by
  induction calls generalizing s history with
  | nil =>
      obtain ⟨rfl, rfl⟩ := Prod.mk.inj h
      rfl
  | cons call calls ih =>
      rcases hstep : g.step s call with ⟨deed, mid⟩
      rcases hrest : g.run mid calls with ⟨deeds, last⟩
      rw [run, hstep] at h
      dsimp only at h
      rw [hrest] at h
      obtain ⟨rfl, rfl⟩ := Prod.mk.inj h
      rw [List.foldl_cons, ← get?_step hstep, ih hrest]

/-- What is held under a key was there from the start, or the latest deed that put something there did
so; in both cases nothing was wiped since. -/
theorem exists_latest {key : String} {schema : Schema} {history : List (Deed ι)} {held : Option Schema}
    (h : history.foldl (g.leaves key) held = some schema) :
    (held = some schema ∧ ∀ e ∈ history, e.wipes = false ∧ ∀ other, g.kept? e ≠ some (key, other)) ∨
      ∃ before d between, history = before ++ d :: between ∧ g.kept? d = some (key, schema) ∧
        ∀ e ∈ between, e.wipes = false ∧ ∀ other, g.kept? e ≠ some (key, other) := by
  induction history generalizing held with
  | nil => exact .inl ⟨h, by simp⟩
  | cons d history ih =>
      rw [List.foldl_cons] at h
      rcases ih h with ⟨hleft, hquiet⟩ | ⟨before, d', between, rfl, hkept, hquiet⟩
      · -- nothing was put there or wiped after the first deed, so that one decides
        rw [leaves] at hleft
        split at hleft
        · exact absurd hleft (by simp)
        rename_i hkeeps
        split at hleft
        · rename_i k other hkept
          split at hleft
          · rename_i hkey
            subst hkey
            rw [Option.some.inj hleft] at hkept
            exact .inr ⟨[], d, history, rfl, hkept, hquiet⟩
          · rename_i hkey
            refine .inl ⟨hleft, List.forall_mem_cons.2 ⟨⟨by simpa using hkeeps, ?_⟩, hquiet⟩⟩
            intro other' hother
            rw [hkept] at hother
            exact hkey (Prod.mk.inj (Option.some.inj hother)).1.symm
        · rename_i hnone
          refine .inl ⟨hleft, List.forall_mem_cons.2 ⟨⟨by simpa using hkeeps, ?_⟩, hquiet⟩⟩
          intro other hother
          rw [hnone] at hother
          exact Option.some_ne_none _ hother.symm
      · exact .inr ⟨d :: before, d', between, rfl, hkept, hquiet⟩

/-! ## Groups of one user -/

/-- Whether the connections of a group differ in port, TLS and its checks only. -/
def OneUser (g : SessionGroup ι τ) : Prop :=
  ∀ i j, g.connection i = { g.connection j with
    port := (g.connection i).port
    useSsl := (g.connection i).useSsl
    verifySsl := (g.connection i).verifySsl }

variable (g) in
/-- Whether a deed is a bind that asked for a mapping and returned a schema, by a session with the same
connection and the same sample size, of the same index with a base query that asks for the same. -/
def Resolves (who : ι) (sampleSize : Int) (index : String) (q : Option Json) (schema : Schema) :
    Deed ι → Prop
  | .bound who' sampleSize' index' query' (_ :: _) (.ok bound) =>
      g.connection who' = g.connection who ∧ sampleSize' = sampleSize ∧ index' = index ∧
        (∃ q', readBaseQuery query' = .ok q' ∧ SameQuery q' q) ∧ bound.schema = schema
  | _ => False

/-- **In a group of one user a key tells where its schema comes from.** -/
theorem OneUser.kept?_eq_some_iff (hone : g.OneUser) {who : ι} {size : Int} {index : String}
    {q : Option Json} {schema : Schema} :
    g.kept? deed = some (cacheKey (g.connection who) index q size, schema) ↔
      g.Resolves who size index q schema deed := by
  match deed with
  | .bound who' size' index' query' (_ :: _) (.ok bound) =>
      -- all sessions have the host, the user and the password in common
      have hhost : (g.connection who').host = (g.connection who).host :=
        (congrArg Connection.host (hone who' who)).trans rfl
      have huser : (g.connection who').username = (g.connection who).username :=
        (congrArg Connection.username (hone who' who)).trans rfl
      have hpassword : (g.connection who').password = (g.connection who).password :=
        (congrArg Connection.password (hone who' who)).trans rfl
      rw [kept?, Resolves]
      cases hquery : readBaseQuery query' with
      | error e => simp
      | ok q' =>
          simp only [Option.some.injEq, Prod.mk.injEq, Except.ok.injEq, exists_eq_left',
            cacheKey_eq_iff_of_one_user hhost huser hpassword]
          constructor
          · rintro ⟨⟨hport, hindex, hsame, huse, hverify, hsize⟩, hschema⟩
            have hconnection := hone who' who
            rw [hport, huse, hverify] at hconnection
            exact ⟨hconnection, hsize, hindex, hsame, hschema⟩
          · rintro ⟨hconnection, hsize, hindex, hsame, hschema⟩
            rw [hconnection]
            exact ⟨⟨rfl, hindex, hsame, rfl, rfl, hsize⟩, hschema⟩
  | .bound _ _ _ _ (_ :: _) (.error _) => simp [kept?, Resolves]
  | .bound _ _ _ _ [] _ => simp [kept?, Resolves]
  | .updated .. => simp [kept?, Resolves]
  | .cleared => simp [kept?, Resolves]

/-! ## Runs -/

section

variable [DecidableEq ι]

/-- A bind of an index with a name and a base query that can be read. -/
theorem step_bind {who : ι} {index : String} {query : Json} {q : Option Json} {cache : SchemaCache}
    {world : τ} {asked : List String} {outcome : Except Error BoundIndex}
    (hname : Text.isBlankText index = false) (hquery : readBaseQuery query = .ok q)
    (h : (g.session s who).bindChecked (g.service who).noted index q s.cache (s.world, []) =
      (outcome, cache, world, asked)) :
    g.step s (.bind who index query) =
      (.bound who (s.settings who).sampleSize index query asked outcome, { s with cache, world }) := by
  rw [step, Session.bind, hname, if_neg Bool.false_ne_true, hquery]
  dsimp only
  rw [h]

/-- A bind that returns without asking for a mapping found its schema in the cache. -/
theorem held_of_hit {who : ι} {index : String} {query : Json} {size : Int} {bound : BoundIndex}
    (h : g.step s (.bind who index query) = (.bound who size index query [] (.ok bound), s')) :
    ∃ q, readBaseQuery query = .ok q ∧ bound = ⟨index, bound.schema, q⟩ ∧
      s.cache.get? (cacheKey (g.connection who) index q (s.settings who).sampleSize) =
        some bound.schema := by
  rcases hbind : (g.session s who).bind (g.service who).noted index query s.cache (s.world, []) with
    ⟨outcome, cache, world, asked⟩
  rw [step, hbind] at h
  obtain ⟨-, -, -, rfl, rfl⟩ : who = who ∧ _ ∧ index = index ∧ asked = [] ∧ outcome = .ok bound := by
    simpa using (Prod.mk.inj h).1
  rcases Session.bind_cases hbind with ⟨e, he, -⟩ | ⟨q, schema, hquery, hbound, hcase⟩
  · exact absurd he (by simp)
  · obtain rfl := Except.ok.inj hbound
    rcases hcase with ⟨-, hheld, -⟩ | ⟨hasked, -⟩
    · exact ⟨q, hquery, rfl, hheld⟩
    · exact absurd hasked (by simp)

/-- A bind that fails leaves the cache alone. -/
theorem cache_of_failed_bind {who : ι} {index : String} {query : Json} {size : Int}
    {asked : List String} {e : Error}
    (h : g.step s (.bind who index query) = (.bound who size index query asked (.error e), s')) :
    s'.cache = s.cache := by
  rcases hbind : (g.session s who).bind (g.service who).noted index query s.cache (s.world, []) with
    ⟨outcome, cache, world, asked'⟩
  rw [step, hbind] at h
  obtain ⟨hdeed, rfl⟩ := Prod.mk.inj h
  obtain ⟨-, -, rfl⟩ : _ ∧ asked' = asked ∧ outcome = .error e := by simpa using hdeed
  rcases Session.bind_cases hbind with ⟨e', -, hcache⟩ | ⟨q, schema, -, hbound, -⟩
  · exact hcache
  · exact absurd hbound (by simp)

/-- A change of settings that fails leaves settings and cache alone. -/
theorem state_of_failed_update {who : ι} {changes : List (String × Json)} {before : ScanSettings}
    {e : Error} (h : g.step s (.update who changes) = (.updated who before (.error e), s')) :
    s'.settings = s.settings ∧ s'.cache = s.cache := by
  rcases hupdate : (g.session s who).updateSettings (g.service who).scrolls.log changes s.cache
    s.world with ⟨outcome, cache, world⟩
  rw [step, hupdate] at h
  obtain ⟨hdeed, rfl⟩ := Prod.mk.inj h
  obtain ⟨-, rfl⟩ : _ ∧ outcome = .error e := by simpa using hdeed
  rcases Session.updateSettings_cases hupdate with ⟨e', -, hcache⟩ | ⟨after, hafter, -⟩
  · exact ⟨rfl, hcache⟩
  · exact absurd hafter (by simp)

/-- A change of settings takes effect, and wipes the cache just when the sample size is another one. -/
theorem state_of_update {who : ι} {changes : List (String × Json)} {before : ScanSettings}
    {after : Session} (h : g.step s (.update who changes) = (.updated who before (.ok after), s')) :
    before = s.settings who ∧ s'.settings who = after.settings ∧ after.connection = g.connection who ∧
      s'.cache = if after.settings.sampleSize = before.sampleSize then s.cache else {} := by
  rcases hupdate : (g.session s who).updateSettings (g.service who).scrolls.log changes s.cache
    s.world with ⟨outcome, cache, world⟩
  rw [step, hupdate] at h
  obtain ⟨hdeed, rfl⟩ := Prod.mk.inj h
  obtain ⟨rfl, rfl⟩ : s.settings who = before ∧ outcome = .ok after := by simpa using hdeed
  rcases Session.updateSettings_cases hupdate with ⟨e', he, -⟩ | ⟨_, hafter, hconnection, hcache⟩
  · exact absurd he (by simp)
  · obtain rfl := Except.ok.inj hafter
    exact ⟨rfl, if_pos rfl, hconnection, hcache⟩

/-- **A bind that asks for no mapping returns what the latest bind like it resolved**: in a group of one
user, after every run from an empty cache, with whatever answers. The latest bind of the same index by a
session with the same connection and sample size, and with a base query that asks for the same, returned
just this schema, and nothing wiped the cache since. Binds and changes of settings that fail change
neither cache nor settings, and a change of settings wipes the cache just when it changes the sample
size. -/
theorem hit_returns_latest (hone : g.OneUser) {start : State ι τ} (hempty : start.cache = {})
    {calls : List (Call ι)} {history : List (Deed ι)} (hrun : g.run start calls = (history, s)) :
    (∀ who index query size bound s',
      g.step s (.bind who index query) = (.bound who size index query [] (.ok bound), s') →
        ∃ q, readBaseQuery query = .ok q ∧ bound = ⟨index, bound.schema, q⟩ ∧
          ∃ before d between, history = before ++ d :: between ∧
            g.Resolves who (s.settings who).sampleSize index q bound.schema d ∧
            ∀ e ∈ between, e.wipes = false ∧
              ∀ schema, ¬g.Resolves who (s.settings who).sampleSize index q schema e) ∧
    (∀ who index query size asked e s',
      g.step s (.bind who index query) = (.bound who size index query asked (.error e), s') →
        s'.cache = s.cache) ∧
    (∀ who changes before e s',
      g.step s (.update who changes) = (.updated who before (.error e), s') →
        s'.settings = s.settings ∧ s'.cache = s.cache) ∧
    ∀ who changes before after s',
      g.step s (.update who changes) = (.updated who before (.ok after), s') →
        before = s.settings who ∧ s'.settings who = after.settings ∧
          after.connection = g.connection who ∧
          s'.cache = if after.settings.sampleSize = before.sampleSize then s.cache else {} := by
  refine ⟨?_, fun _ _ _ _ _ _ _ => cache_of_failed_bind, fun _ _ _ _ _ => state_of_failed_update,
    fun _ _ _ _ _ => state_of_update⟩
  intro who index query size bound s' hhit
  obtain ⟨q, hquery, hbound, hheld⟩ := held_of_hit hhit
  refine ⟨q, hquery, hbound, ?_⟩
  rw [get?_run hrun, hempty] at hheld
  rcases exists_latest hheld with ⟨hnone, -⟩ | ⟨before, d, between, hhistory, hkept, hquiet⟩
  · exact absurd hnone (by simp [SchemaCache.get?])
  · refine ⟨before, d, between, hhistory, hone.kept?_eq_some_iff.1 hkept, fun e he => ?_⟩
    obtain ⟨hkeeps, hother⟩ := hquiet e he
    exact ⟨hkeeps, fun schema hresolves => hother schema (hone.kept?_eq_some_iff.2 hresolves)⟩

end

/-! ## An example -/

namespace Verifying

/-- A cluster with one index of one field. -/
def cluster : ClusterService Unit where
  mapping _ := pure (.obj [("docs", .obj [("mappings", .obj [("properties",
    .obj [("a", .obj [("type", .str "keyword")])])])])])
  scrolls :=
    { start := fun _ => pure ⟨none, []⟩
      next := fun _ _ => pure ⟨none, []⟩
      release := fun _ => pure true
      log := fun _ now => now }

/-- Sessions of one user, the first two of which verify certificates. -/
def group : SessionGroup Nat Unit where
  connection who := { useSsl := true, verifySsl := decide (who < 2) }
  service _ := cluster

/-- No session has bound anything, and none takes samples. -/
def start : State Nat Unit := { settings := fun _ => { sampleSize := 0 }, cache := {}, world := () }

/-- The sessions have one user. -/
theorem oneUser : group.OneUser := fun _ _ => rfl

/-- The key of the index for the sessions that verify certificates. -/
def key (q : Option Json) : String := cacheKey { useSsl := true } "docs" q 0

/-- A first bind resolves the schema, and one by another session takes it from the cache. -/
theorem steps : ∃ schema, ∀ {query query' : Json} {q q' : Option Json}, readBaseQuery query = .ok q →
    readBaseQuery query' = .ok q' → SameQuery q' q → ∃ s,
      group.step start (.bind 0 "docs" query) =
        (.bound 0 0 "docs" query ["docs"] (.ok ⟨"docs", schema, q⟩), s) ∧
      group.step s (.bind 1 "docs" query') =
        (.bound 1 0 "docs" query' [] (.ok ⟨"docs", schema, q'⟩), s) := by
  have hblank : Text.isBlankText "docs" = false := by decide
  obtain ⟨schema, hschema⟩ : ∃ schema, ∀ q,
      resolveSchema cluster.noted "docs" q { sampleSize := 0 } ((), []) = (.ok schema, (), ["docs"]) :=
    ⟨_, fun _ => rfl⟩
  refine ⟨schema, fun {query query' q q'} hquery hquery' hsame => ?_⟩
  -- two queries that ask for the same have one key
  have hkey : key q' = key q :=
    (cacheKey_eq_iff_of_one_user rfl rfl rfl).2 ⟨rfl, rfl, hsame, rfl, rfl, rfl⟩
  have hmiss : ∀ q, (group.session start 0).bindChecked cluster.noted "docs" q start.cache ((), []) =
      (.ok ⟨"docs", schema, q⟩, start.cache.put (key q) schema, (), ["docs"]) := by
    intro q
    rw [Session.bindChecked]
    have hnone : start.cache.get? ((group.session start 0).key "docs" q) = none := rfl
    rw [hnone]
    dsimp only
    rw [show (group.session start 0).settings = { sampleSize := 0 } from rfl, hschema]
    rfl
  let kept : State Nat Unit := { start with cache := start.cache.put (key q) schema }
  have hheld : kept.cache.get? ((group.session kept 1).key "docs" q') = some schema := by
    have hsession : (group.session kept 1).key "docs" q' = key q' := rfl
    rw [hsession, hkey]
    exact SchemaCache.get?_put_self ..
  have hhit : (group.session kept 1).bindChecked cluster.noted "docs" q' kept.cache ((), []) =
      (.ok ⟨"docs", schema, q'⟩, kept.cache, (), []) := by
    rw [Session.bindChecked, hheld]
    rfl
  refine ⟨kept, ?_, ?_⟩
  · exact step_bind hblank hquery (hmiss q)
  · exact step_bind hblank hquery' hhit

/-- What a session returns without asking for the mapping is what another one resolved. -/
theorem hit_returns_latest_verifying : ∃ history s bound s',
    group.run start [.bind 0 "docs" .null] = (history, s) ∧
      group.step s (.bind 1 "docs" (.obj [])) = (.bound 1 0 "docs" (.obj []) [] (.ok bound), s') ∧
      ∃ before d between, history = before ++ d :: between ∧
        group.Resolves 1 0 "docs" none bound.schema d := by
  obtain ⟨schema, hsteps⟩ := steps
  obtain ⟨s, hfirst, hsecond⟩ := @hsteps .null (.obj []) none none rfl rfl trivial
  have hrun : group.run start [.bind 0 "docs" .null] = ([.bound 0 0 "docs" .null ["docs"]
      (.ok ⟨"docs", schema, none⟩)], s) := by
    rw [run, hfirst]
    rfl
  have hsize : (s.settings 1).sampleSize = 0 := by
    have hsettings := congrArg (fun r => (r.2.settings 1).sampleSize) hfirst
    exact hsettings.symm
  obtain ⟨hhits, -⟩ := hit_returns_latest oneUser (rfl : start.cache = {}) hrun
  obtain ⟨q, hquery, -, before, d, between, hhistory, hresolves, -⟩ := hhits _ _ _ _ _ _ hsecond
  obtain rfl : q = none := (Except.ok.inj hquery).symm
  rw [hsize] at hresolves
  exact ⟨_, s, _, s, hrun, hsecond, before, d, between, hhistory, hresolves⟩

/-- A base query on one term. -/
def term (text : String) : Json := .obj [("term", .obj [("a", .str text)])]

/-- The text of a character, and that of its two halves. -/
theorem hit_of_other_text :
    let whole := Text.ofCodePoints [0x1f600]
    let halves := Text.ofCodePoints [0xd83d, 0xde00]
    Text.codePoints halves ≠ Text.codePoints whole ∧ ∃ schema s,
      group.run start [.bind 0 "docs" (term halves)] =
        ([.bound 0 0 "docs" (term halves) ["docs"] (.ok ⟨"docs", schema, some (term halves)⟩)], s) ∧
      group.step s (.bind 1 "docs" (term whole)) =
        (.bound 1 0 "docs" (term whole) [] (.ok ⟨"docs", schema, some (term whole)⟩), s) := by
  intro whole halves
  have hcodes : Text.codePoints halves = [0xd83d, 0xde00] ∧ Text.codePoints whole = [0x1f600] := by
    decide
  have hsame : SameQuery (some (term whole)) (some (term halves)) := by
    have hunits : Text.units whole = Text.units halves := by
      rw [Text.units, Text.units, hcodes.1, hcodes.2]
      decide
    simp [SameQuery, Option.filter, term, Json.isGiven, Json.Alike, Json.sortNames,
      Json.sortNamesMembers, Json.insertSorted, Json.form, Json.formMembers, hunits]
  obtain ⟨schema, hsteps⟩ := steps
  obtain ⟨s, hfirst, hsecond⟩ := @hsteps (term halves) (term whole) _ _ rfl rfl hsame
  refine ⟨by rw [hcodes.1, hcodes.2]; decide, schema, s, ?_, hsecond⟩
  rw [run, hfirst]
  rfl

end Verifying

end SessionGroup

end SearchTables
