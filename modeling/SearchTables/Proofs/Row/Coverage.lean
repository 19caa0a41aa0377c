import SearchTables.Proofs.Mapping.Declarations
import SearchTables.Proofs.Mapping.DeclaredTypes
import SearchTables.Proofs.Row.Residual

/-! # Coverage — the values of a document that a table shows

A table shows a value of a document in its place in the residual, or within what a look-up along a
mapped path finds. The residual joins the keys on the way to a value to a path, and a look-up takes a
path apart to keys. The two part ways at a key with dots, which may be joined to a mapped path that
no look-up reaches: `hidden_iff` says which values are lost there. In a table resolved from mappings
they all lie beneath a dotted key at the top of the document (`mergeMappings_hidden_iff`). -/

namespace SearchTables

/-- A look-up along a path **covers** a value at a place of a document: it finds that value, or
something that holds it in its place. -/
def Covers (path : String) (document : Json) (keys : List String) (value : Json) : Prop :=
  ∃ found beneath, Path.find? document path = some found ∧ keys = Path.segments path ++ beneath ∧
    found.At beneath value

/-- A value at a place of a document is **visible** beside mapped paths: it stands in its place in the
residual, or a mapped path covers it. -/
def Visible (mapped : List String) (document : Json) (keys : List String) (value : Json) : Prop :=
  (Json.obj ((PathSet.ofMapped mapped).residual "" document)).At keys value ∨
    ∃ path ∈ mapped, Covers path document keys value

/-! ## What a look-up reaches -/

/-- **A path covers what stands beneath the names along it**, unless that is null. -/
theorem covers_iff {document value : Json} {keys : List String} (hdistinct : document.DistinctKeys)
    (hat : document.At keys value) (hvalue : value ≠ .null) {path : String} :
    Covers path document keys value ↔ Path.segments path <+: keys := by
  have hne := Path.segments_ne_nil path
  constructor
  · rintro ⟨found, beneath, -, hkeys, -⟩
    exact ⟨beneath, hkeys.symm⟩
  · rintro ⟨beneath, rfl⟩
    obtain ⟨found, hfound, hbeneath⟩ := Json.at_append_iff.1 hat
    refine ⟨found, beneath, ?_, rfl, hbeneath⟩
    rw [Path.find?, hdistinct.follow_eq_some_iff hne]
    refine ⟨?_, hfound⟩
    -- in null stands nothing but null
    rintro rfl
    cases hbeneath
    exact hvalue rfl

/-! ## What is hidden -/

/-- **What is hidden beside given mapped paths**: values at no mapped path and beneath none, key by
key, although their keys joined to paths come past a terminal mapped path or end above a mapped one.
-/
theorem hidden_iff {mapped : List String} {document value : Json} {key : String}
    {keys : List String} (hdistinct : document.DistinctKeys) (hat : document.At (key :: keys) value)
    (hnull : value ≠ .null) (hobject : ¬ value.IsObject) (hkey : key ≠ "") :
    ¬ Visible mapped document (key :: keys) value ↔
      (∀ path ∈ mapped, ¬ Path.segments path <+: key :: keys) ∧
        ((∃ front, front <+: keys ∧ Terminal mapped (front.foldl Path.under key)) ∨
          ∃ path ∈ mapped, Path.Above (keys.foldl Path.under key) path) := by
  rw [Visible, PathSet.at_residual_iff (List.cons_ne_nil _ _), PathSet.kept_iff_passes hobject,
    Path.under_empty, PathSet.passes_iff hkey, and_iff_right hat, not_or, not_and_or, and_comm]
  simp only [covers_iff hdistinct hat hnull]
  refine and_congr ?_ (or_congr ?_ ?_)
  · simp
  · simp
  · simp

/-! ## Mapped paths of a merged mapping -/

/-- **Whatever lies above a field inside a field is the path of a field there**, when it does not
already lie above the whole field. -/
theorem Field.Placed.mem_walk_of_above {parent : String} {f : Field} (h : f.Placed parent)
    (hsteps : ∀ g ∈ f.walk, Path.IsStep g.name) {g : Field} (hg : g ∈ f.walk) {above : String}
    (habove : Path.Above above g.path) :
    (∃ h ∈ f.walk, h.path = above) ∨ parent ≠ "" ∧ (above = parent ∨ Path.Above above parent) := by
  induction h generalizing g with
  | @declare parent name indexType children multiFields inside ih =>
      rw [Field.walk, List.forall_mem_cons] at hsteps
      obtain ⟨hname, hsteps⟩ := hsteps
      change Path.IsStep name at hname
      -- what lies above the field itself lies outside it
      have houter : Path.Above above (Path.under parent name) →
          parent ≠ "" ∧ (above = parent ∨ Path.Above above parent) := by
        intro habove
        by_cases hparent : parent = ""
        · rw [hparent, Path.under_empty] at habove
          exact absurd habove (Path.not_above_of_dotless hname.2)
        · rw [Path.under_of_ne hparent hname.1, Path.above_member_iff hname.2] at habove
          exact ⟨hparent, habove⟩
      rw [Field.walk] at hg ⊢
      rcases List.mem_cons.1 hg with rfl | hg
      · exact .inr (houter habove)
      · obtain ⟨c, hc, hg⟩ := Field.mem_walkAll.1 hg
        have hinside : ∀ g ∈ c.walk, g ∈ Field.walkAll children :=
          fun g hg => Field.mem_walkAll.2 ⟨c, hc, hg⟩
        rcases ih c hc (fun g hg => hsteps g (hinside g hg)) hg habove with
          ⟨h, hh, hpath⟩ | ⟨-, rfl | habove⟩
        · exact .inl ⟨h, List.mem_cons_of_mem _ (hinside h hh), hpath⟩
        · exact .inl ⟨_, List.mem_cons_self .., rfl⟩
        · exact .inr (houter habove)

section Merged

variable {mappings : List IndexMapping} {m : MergedMapping}

/-- A path above a mapped one is mapped, when the declared names are steps of paths. -/
theorem mem_mappedPaths_of_above (h : mergeMappings mappings = .ok m)
    (hparsed : ∀ mapping ∈ mappings, mapping.Parsed)
    (hsteps : ∀ f ∈ declaredFields mappings, Path.IsStep f.name) {path above : String}
    (hpath : path ∈ m.mappedPaths) (habove : Path.Above above path) : above ∈ m.mappedPaths := by
  obtain ⟨g, hg, rfl⟩ := (mem_mappedPaths_iff h).1 hpath
  obtain ⟨mapping, hmapping, hg⟩ := List.mem_flatMap.1 hg
  obtain ⟨f, hf, hg⟩ := Field.mem_walkAll.1 hg
  have hdeclared : ∀ g ∈ f.walk, g ∈ declaredFields mappings := fun g hg =>
    List.mem_flatMap.2 ⟨mapping, hmapping, Field.mem_walkAll.2 ⟨f, hf, hg⟩⟩
  have hplaced := (hparsed mapping hmapping).placed f hf
  rcases hplaced.mem_walk_of_above (fun g hg => hsteps g (hdeclared g hg)) hg habove with
    ⟨d, hd, rfl⟩ | ⟨hparent, -⟩
  · exact (mem_mappedPaths_iff h).2 ⟨d, hdeclared d hd, rfl⟩
  · exact absurd rfl hparent

/-- **What a table resolved from mappings hides.** A value of a document that is neither null nor an
object is hidden exactly beneath a dotted key at the top, where its keys joined to paths come past a
terminal mapped path or end above a mapped one. -/
theorem mergeMappings_hidden_iff (h : mergeMappings mappings = .ok m)
    (hparsed : ∀ mapping ∈ mappings, mapping.Parsed)
    (hsteps : ∀ f ∈ declaredFields mappings, Path.IsStep f.name) {document value : Json}
    {key : String} {keys : List String} (hdistinct : document.DistinctKeys)
    (hat : document.At (key :: keys) value) (hnull : value ≠ .null) (hobject : ¬ value.IsObject) :
    ¬ Visible m.mappedPaths document (key :: keys) value ↔
      '.' ∈ key.toList ∧
        ((∃ front, front <+: keys ∧ Terminal m.mappedPaths (front.foldl Path.under key)) ∨
          ∃ path ∈ m.mappedPaths, Path.Above (keys.foldl Path.under key) path) := by
  by_cases hdot : '.' ∈ key.toList
  · have hkey : key ≠ "" := by
      rintro rfl
      cases hdot
    rw [hidden_iff hdistinct hat hnull hobject hkey, and_iff_right hdot, and_iff_right]
    -- no path leads along a name with a dot
    rintro path - hprefix
    obtain ⟨first, names, hsegments⟩ := List.exists_cons_of_ne_nil (Path.segments_ne_nil path)
    rw [hsegments] at hprefix
    obtain ⟨rfl, -⟩ := List.cons_prefix_cons.1 hprefix
    exact Path.dotless_of_mem_segments (hsegments ▸ List.mem_cons_self ..) hdot
  · refine iff_of_false (not_not.2 ?_) fun h => hdot h.1
    by_cases hmapped : key ∈ m.mappedPaths
    · refine .inr ⟨key, hmapped, (covers_iff hdistinct hat hnull).2 ?_⟩
      rw [Path.segments_of_dotless hdot]
      exact List.cons_prefix_cons.2 ⟨rfl, List.nil_prefix⟩
    · -- a key that is not mapped lies above no mapped path, so everything beneath it is kept
      have hnone : ∀ p ∈ m.mappedPaths, ¬ Path.Above key p := fun p hp habove =>
        hmapped (mem_mappedPaths_of_above h hparsed hsteps hp habove)
      obtain ⟨members, rfl⟩ := hat.isObject
      obtain ⟨inner, hmember, hinner⟩ := Json.at_obj_cons_iff.1 hat
      refine .inl (PathSet.Kept.whole hmember ?_ ?_ hinner).at_residual
      · rwa [Path.under_empty, PathSet.isAbove_ofMapped_eq_false]
      · rwa [Path.under_empty, PathSet.isMapped_ofMapped_eq_false]

/-- A dotted key whose joined path lies above a mapped one. -/
theorem mergeMappings_hidden_iff_above :
    let response := Json.obj [("docs", .obj [("mappings", .obj [("properties", .obj
      [("a", .obj [("properties", .obj
        [("b", .obj [("properties", .obj [("c", .obj [("type", .str "long")])])])])])])])])]
    let mappings : List IndexMapping := [⟨"docs", [.declare "a" "a" "object"
      [.declare "b" "a.b" "object" [.declare "c" "a.b.c" "long" [] []] []] []]⟩]
    IndexMapping.ofResponse response = .ok mappings ∧ ∃ m, mergeMappings mappings = .ok m ∧
      ¬ Visible m.mappedPaths (.obj [("a.b", .int 1)]) ["a.b"] (.int 1) := by
  intro response mappings
  have hresponse : IndexMapping.ofResponse response = .ok mappings := by rfl
  obtain ⟨m, hm⟩ : ∃ m, mergeMappings mappings = .ok m := ⟨_, rfl⟩
  have hmapped : "a.b.c" ∈ m.mappedPaths := (mem_mappedPaths_iff hm).2 (by decide)
  refine ⟨hresponse, m, hm, (mergeMappings_hidden_iff hm ?_ ?_ ?_ ?_ ?_ ?_).2
    ⟨by decide, .inr ⟨"a.b.c", hmapped, "c", by decide⟩⟩⟩
  · intro mapping hmapping
    exact ⟨response, mappings, hresponse, hmapping⟩
  · decide
  · simp [Json.distinctKeys_obj_iff, Json.distinctKeys_of_not_isObject, Json.IsObject]
  · exact .member (List.mem_singleton.2 rfl) (.root _)
  · simp
  · simp [Json.IsObject]

/-- A dotted key whose joined path is mapped: the residual leaves the value out, and no look-up finds
it. -/
theorem not_visible_dotted_key :
    let response := Json.obj [("docs", .obj [("mappings", .obj [("properties", .obj
      [("a", .obj [("properties", .obj [("b", .obj [("type", .str "long")])])])])])])]
    let document := Json.obj [("a.b", .int 1)]
    ∃ mappings m, IndexMapping.ofResponse response = .ok mappings ∧ mergeMappings mappings = .ok m ∧
      document.At ["a.b"] (.int 1) ∧ ¬ Visible m.mappedPaths document ["a.b"] (.int 1) := by
  intro response document
  refine ⟨_, _, rfl, rfl, .member (List.mem_singleton.2 rfl) (.root _), ?_⟩
  rintro (hat | ⟨path, hpath, found, -, hfound, -⟩)
  · have hnothing : (PathSet.ofMapped ["a", "a.b"]).residual "" document = [] := by rfl
    cases hat with
    | member hmember => cases hnothing ▸ hmember
  · have hnone : ∀ path ∈ ["a", "a.b"], Path.find? document path = none := by decide
    cases (hnone path hpath).symm.trans hfound

end Merged

end SearchTables
