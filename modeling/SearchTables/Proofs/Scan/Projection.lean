import SearchTables.Proofs.Json.Place
import SearchTables.Proofs.Scan.Yield

/-! # Projections — the rows of a part of each document

A search can be asked for a part of each document: the members at given paths, with everything beneath
them (`Json.part`). A hit as the search shows it has that part as its source, or no source (`Hit.shown`).
A value at a path that was asked for is found in the part as it is in the whole (`find?_part`), and a
request that was worked out asks for enough: the row of a hit does not depend on whether the whole document
was fetched (`decode_shown`). -/

namespace SearchTables

/-! ## Parts of documents -/

namespace Json

mutual

/-- What is shown of a value at a place, when values at given paths are asked for. Objects and arrays are
shown when something in them is, and other values only where all beneath a path is shown. -/
def partAt (paths : List (List String)) (place : List String) : Json → Option Json
  | .obj members =>
      match partMembers paths place members with
      | [] => none
      | shown => some (.obj shown)
  | .arr items =>
      match partItems paths place items with
      | [] => none
      | shown => some (.arr shown)
  | _ => none

/-- What is shown of the members of an object. A name with dots stands for a path. -/
def partMembers (paths : List (List String)) (place : List String) :
    List (String × Json) → List (String × Json)
  | [] => []
  | (name, value) :: rest =>
      let inner := place ++ Path.segments name
      if paths.any (·.isPrefixOf inner) then (name, value) :: partMembers paths place rest
      else
        match partAt paths inner value with
        | some shown => (name, shown) :: partMembers paths place rest
        | none => partMembers paths place rest

/-- What is shown of the items of an array, which stand at the place of the array. -/
def partItems (paths : List (List String)) (place : List String) : List Json → List Json
  | [] => []
  | item :: rest =>
      match partAt paths place item with
      | some shown => shown :: partItems paths place rest
      | none => partItems paths place rest

end

/-- The part of a document at given paths, the empty object when there is nothing at them. -/
def part (paths : List String) (document : Json) : Json :=
  (partAt (paths.map Path.segments) [] document).getD (.obj [])

section

variable {paths : List (List String)} {place names : List String} {name : String}
  {members : List (String × Json)}

/-- What is shown of one value in an object. -/
def shownMember (paths : List (List String)) (inner : List String) (value : Json) : Option Json :=
  if paths.any (·.isPrefixOf inner) then some value else partAt paths inner value

/-- What is shown of an object is an object. -/
theorem getD_partAt_obj : (partAt paths place (.obj members)).getD (.obj []) =
    .obj (partMembers paths place members) := by
  rw [partAt]
  cases partMembers paths place members <;> rfl

/-- A member that is shown was there. -/
theorem mem_of_mem_partMembers (h : name ∈ (partMembers paths place members).map (·.1)) :
    name ∈ members.map (·.1) := by
  induction members with
  | nil => simp [partMembers] at h
  | cons member rest ih =>
      obtain ⟨other, value⟩ := member
      rw [partMembers] at h
      rw [List.map_cons, List.mem_cons]
      split at h
      · exact (List.mem_cons.1 h).imp_right ih
      · split at h
        · exact (List.mem_cons.1 h).imp_right ih
        · exact .inr (ih h)

/-- **What is shown under a name** is what is shown of the member with that name. -/
theorem lookup_partMembers (hnodup : (members.map (·.1)).Nodup) :
    (partMembers paths place members).lookup name =
      (members.lookup name).bind (shownMember paths (place ++ Path.segments name)) := by
  induction members with
  | nil => rfl
  | cons member rest ih =>
      obtain ⟨other, value⟩ := member
      rw [List.map_cons, List.nodup_cons] at hnodup
      have hrest := ih hnodup.2
      rw [partMembers, List.lookup_cons]
      by_cases hname : name = other
      · subst hname
        -- no other member has the name, shown or not
        have hnone : (partMembers paths place rest).lookup name = none := by
          rw [List.lookup_eq_none_iff]
          intro m hm
          rw [bne_iff_ne]
          intro hkey
          exact hnodup.1 (mem_of_mem_partMembers (List.mem_map.2 ⟨m, hm, hkey.symm⟩))
        rw [beq_self_eq_true, Option.bind_some, shownMember]
        split
        · rw [List.lookup_cons, beq_self_eq_true]
        · cases hshown : partAt paths (place ++ Path.segments name) value with
          | none => exact hnone
          | some shown => rw [List.lookup_cons, beq_self_eq_true]
      · have hne : (name == other) = false := beq_false_of_ne hname
        rw [hne]
        dsimp only
        rw [← hrest]
        split
        · rw [List.lookup_cons, hne]
        · split
          · rw [List.lookup_cons, hne]
          · rfl

/-- There is nothing at a place in what is no object. -/
theorem follow_of_get?_eq_none {j : Json} (hnames : names ≠ []) (h : ∀ name, j.get? name = none) :
    Path.follow names j = none := by
  obtain ⟨first, rest, rfl⟩ := List.exists_cons_of_ne_nil hnames
  rw [Path.follow, h]

/-- Nothing stands in `null`, so it need not be told apart where more names follow. -/
theorem follow_cons_of_ne_nil (hnames : names ≠ []) (j : Json) :
    Path.follow (name :: names) j = (j.get? name).bind (Path.follow names) := by
  have hnull : Path.follow names .null = none := follow_of_get?_eq_none hnames fun _ => rfl
  rw [Path.follow]
  cases j.get? name with
  | none => rfl
  | some value =>
      cases value with
      | null => exact hnull.symm
      | _ => rfl

/-- **Names lead to the same value in what is shown of a document**, when the place that they lead to was
asked for. The induction is on the names that are still to be followed. -/
theorem follow_partAt (hdotless : ∀ name ∈ names, '.' ∉ name.toList) (hnames : names ≠ []) :
    ∀ {place : List String} {j : Json}, j.DistinctKeys → place ++ names ∈ paths →
      Path.follow names ((partAt paths place j).getD (.obj [])) = Path.follow names j := by
  induction names with
  | nil => exact absurd rfl hnames
  | cons name rest ih =>
      intro place j hdistinct hasked
      rw [List.forall_mem_cons] at hdotless
      cases j with
      | obj members =>
          have hlookup : (partMembers paths place members).lookup name =
              (members.lookup name).bind (shownMember paths (place ++ [name])) := by
            rw [lookup_partMembers (distinctKeys_obj_iff.1 hdistinct).1, Path.segments_of_dotless hdotless.1]
          rw [getD_partAt_obj]
          by_cases hwhole : paths.any (·.isPrefixOf (place ++ [name])) = true
          · have hsame : shownMember paths (place ++ [name]) = some := funext fun _ => if_pos hwhole
            rw [Path.follow, Path.follow, get?_obj, get?_obj, hlookup, hsame, Option.bind_fun_some]
          · -- the place itself was not asked for, so more names follow
            have hmore : rest ≠ [] := by
              rintro rfl
              exact hwhole (List.any_eq_true.2 ⟨_, hasked, List.isPrefixOf_iff_prefix.2 (List.prefix_refl _)⟩)
            have hdeeper : place ++ [name] ++ rest ∈ paths := by
              rwa [List.append_assoc, List.singleton_append]
            rw [follow_cons_of_ne_nil hmore, follow_cons_of_ne_nil hmore, get?_obj, get?_obj, hlookup,
              Option.bind_assoc]
            refine Option.bind_congr fun value hvalue => ?_
            rw [shownMember, if_neg hwhole, ← ih hdotless.2 hmore (hdistinct.member (mem_of_lookup hvalue)) hdeeper]
            cases partAt paths (place ++ [name]) value with
            | none => exact (follow_of_get?_eq_none hmore fun _ => rfl).symm
            | some shown => rfl
      | arr items =>
          rw [partAt]
          cases partItems paths place items <;> rfl
      | _ => rfl

end

/-- **A path that was asked for leads to the same value in the part as in the whole.** -/
theorem find?_part {paths : List String} {path : String} (hpath : path ∈ paths) {document : Json}
    (hdistinct : document.DistinctKeys) : Path.find? (document.part paths) path = Path.find? document path := by
  refine follow_partAt (fun _ => Path.dotless_of_mem_segments) (Path.segments_ne_nil path) hdistinct ?_
  exact List.mem_map_of_mem hpath

end Json

/-! ## Hits -/

namespace Hit

/-- The texts among values. -/
def textsAmong (values : List Value) : List String :=
  values.filterMap fun value => match value with
    | .str text => some text
    | _ => none

/-- The members of a hit as a search shows it that was asked for a given part of each document: for nothing
in particular, for no source, or for paths. -/
def shownMembers (asked : Option Value) (members : List (String × Json)) : List (String × Json) :=
  match asked with
  | some (.bool false) => members.filter fun (name, _) => name ≠ "_source"
  | some (.list paths) => members.map fun (name, value) =>
      (name, if name = "_source" then value.part (textsAmong paths) else value)
  | _ => members

/-- A hit as a search shows it. -/
def shown (asked : Option Value) : Json → Json
  | .obj members => .obj (shownMembers asked members)
  | hit => hit

variable {members : List (String × Json)}

/-- Texts are all among themselves. -/
theorem textsAmong_map_str (texts : List String) : textsAmong (texts.map .str) = texts := by
  rw [textsAmong, List.filterMap_map]
  exact List.filterMap_some

/-- All members but the source are shown as they are. -/
theorem lookup_shownMembers_of_ne (asked : Option Value) {name : String} (hname : name ≠ "_source") :
    (shownMembers asked members).lookup name = members.lookup name := by
  unfold shownMembers
  split
  · induction members with
    | nil => rfl
    | cons member rest ih =>
        obtain ⟨other, value⟩ := member
        rw [List.lookup_cons]
        by_cases hother : other = "_source"
        · have hne : (name == other) = false := beq_false_of_ne fun h => hname (h.trans hother)
          rw [List.filter_cons_of_neg (by simpa using hother), ih, hne]
        · rw [List.filter_cons_of_pos (by simpa using hother), List.lookup_cons, ih]
  · induction members with
    | nil => rfl
    | cons member rest ih =>
        obtain ⟨other, value⟩ := member
        rw [List.map_cons, List.lookup_cons, List.lookup_cons, ih]
        by_cases hother : name = other
        · subst hother
          rw [if_neg hname]
        · rw [beq_false_of_ne hother]
  · rfl

/-- Of the source the part is shown that was asked for. -/
theorem lookup_source_paths (paths : List String) :
    (shownMembers (Projection.toValue? (.paths paths)) members).lookup "_source" =
      (members.lookup "_source").map (·.part paths) := by
  rw [Projection.toValue?, shownMembers, textsAmong_map_str]
  induction members with
  | nil => rfl
  | cons member rest ih =>
      obtain ⟨other, value⟩ := member
      rw [List.map_cons, List.lookup_cons, List.lookup_cons]
      by_cases hname : "_source" = other
      · subst hname
        rw [beq_self_eq_true]
        rfl
      · rw [beq_false_of_ne hname]
        exact ih

end Hit

namespace RowDecoder

variable {members : List (String × Json)} {d : RowDecoder}

/-- A path leads nowhere in a source that counts as not given. -/
theorem find?_of_not_isGiven {source : Json} (h : source.isGiven = false) (path : String) :
    Path.find? source path = none := by
  refine Json.follow_of_get?_eq_none (Path.segments_ne_nil path) fun name => ?_
  cases source with
  | obj members =>
      have hnil : members = [] := by simpa [Json.isGiven] using h
      rw [hnil]
      rfl
  | _ => rfl

/-- A path leads to the same value in a source whether or not the source counts as given. -/
theorem find?_sourceOfHit (path : String) :
    Path.find? (sourceOfHit members) path =
      (members.lookup "_source").bind fun source => Path.find? source path := by
  rw [sourceOfHit]
  have hempty : Path.find? (.obj []) path = none := find?_of_not_isGiven rfl path
  cases members.lookup "_source" with
  | none => exact hempty
  | some source =>
      dsimp only
      split
      · rfl
      · rename_i hgiven
        rw [hempty, Option.bind_some, find?_of_not_isGiven (Bool.not_eq_true _ ▸ hgiven)]

/-- Whether the cells of a column need no more of a document than the values at given paths. -/
def Within (paths : List String) : CellSource → Prop
  | .id => True
  | .residual | .source => False
  | .column column => column.path ∈ paths

/-- So it is for more paths. -/
theorem Within.mono {paths more : List String} {origin : CellSource} (h : Within paths origin)
    (hmore : paths ⊆ more) : Within more origin := by
  cases origin with
  | column column => exact hmore h
  | _ => exact h

/-- A cell is the same for two hits that agree on the id and on the values at the paths of the cell. -/
theorem cell_congr {members' : List (String × Json)} {paths : List String} {origin : CellSource}
    (hid : members'.lookup "_id" = members.lookup "_id")
    (hpaths : ∀ path ∈ paths, Path.find? (sourceOfHit members') path = Path.find? (sourceOfHit members) path)
    (hwithin : Within paths origin) : d.cell origin members' = d.cell origin members := by
  cases origin with
  | id => rw [cell, cell, hid]
  | residual => exact hwithin.elim
  | source => exact hwithin.elim
  | column column => rw [cell, cell, hpaths _ hwithin]

/-- So is a row. -/
theorem decode_congr {members' : List (String × Json)} {paths : List String}
    (hid : members'.lookup "_id" = members.lookup "_id")
    (hpaths : ∀ path ∈ paths, Path.find? (sourceOfHit members') path = Path.find? (sourceOfHit members) path)
    (hwithin : ∀ c ∈ d.columns, Within paths c.2) : d.decode (.obj members') = d.decode (.obj members) := by
  have hcells : ∀ columns : List (String × CellSource), (∀ c ∈ columns, Within paths c.2) →
      d.cells members' columns = d.cells members columns := by
    intro columns hcolumns
    induction columns with
    | nil => rfl
    | cons column rest ih =>
        obtain ⟨name, origin⟩ := column
        rw [List.forall_mem_cons] at hcolumns
        rw [cells, cells, cell_congr hid hpaths hcolumns.1, ih hcolumns.2]
  unfold decode
  cases hcolumns : d.columns with
  | nil => rfl
  | cons column rest =>
      dsimp only
      rw [hcells _ (hcolumns ▸ hwithin)]

end RowDecoder

/-! ## Requests -/

section

variable {schema : Schema}

/-- The sources of columns that are not residual stand at the paths of the columns. -/
theorem RowDecoder.within_columnPaths {names found : List String} {sources : List (String × CellSource)}
    (hresidual : ∀ name ∈ names, name ∉ residualColumns)
    (hpaths : Projection.columnPaths schema names = .ok found)
    (hsources : RowDecoder.sourcesOf schema names = .ok sources) :
    ∀ c ∈ sources, RowDecoder.Within found c.2 := by
  induction names generalizing found sources with
  | nil =>
      obtain rfl := Except.ok.inj hsources
      simp
  | cons name rest ih =>
      rw [List.forall_mem_cons] at hresidual
      simp only [RowDecoder.sourcesOf, bind_eq_ok, pure_eq_ok] at hsources
      obtain ⟨origin, horigin, others, hothers, rfl⟩ := hsources
      -- a column that is asked for by its path is the id or a declared one
      have hnone : name ≠ unmappedColumn ∧ name ≠ sourceColumn := by
        simpa [residualColumns] using hresidual.1
      rw [RowDecoder.sourceOf] at horigin
      rw [Projection.columnPaths] at hpaths
      rw [List.forall_mem_cons]
      by_cases hid : name = idColumn
      · rw [if_pos hid] at horigin hpaths
        obtain rfl := Except.ok.inj horigin
        exact ⟨trivial, ih hresidual.2 hpaths hothers⟩
      · rw [if_neg hid, if_neg hnone.1, if_neg hnone.2] at horigin
        rw [if_neg hid] at hpaths
        cases hfind : schema.findColumn? name with
        | none =>
            rw [hfind] at hpaths
            cases hpaths
        | some column =>
            rw [hfind] at horigin hpaths
            obtain rfl := Except.ok.inj horigin
            obtain ⟨paths, hrest, rfl⟩ := map_eq_ok.1 hpaths
            exact ⟨List.mem_cons_self, fun c hc =>
              (ih hresidual.2 hrest hothers c hc).mono (List.subset_cons_self ..)⟩

/-- Without a row filter the projection is what the columns need. -/
theorem ScanOrder.ofColumns_of_compile {order : ScanOrder} {index : String} {settings : ScanSettings}
    {r : ScanRequest} (h : order.compile schema index settings = .ok r) (hfilter : order.rowFilter = none) :
    Projection.ofColumns r.columns schema = .ok r.projection := by
  have hcolumns := (ScanOrder.compiled_of_compile h).columns
  simp only [compile, bind_eq_ok, hfilter] at h
  obtain ⟨_, -, _, -, _, -, _, -, h⟩ := h
  rw [if_neg (by simp)] at h
  obtain ⟨projection, hprojection, hr⟩ := bind_eq_ok.1 h
  obtain rfl := pure_eq_ok.1 hr
  exact hprojection

/-- What is asked for of each document. -/
theorem ScanRequest.get?_body (r : ScanRequest) : r.body.get? "_source" = r.projection.toValue? := by
  rw [ScanRequest.body, Value.get?]
  cases r.projection <;> rfl

/-- **A projection that was worked out loses nothing that the decoder needs.** The columns of a request have
a decoder, and it makes the same row of a hit as the search shows it as of the whole hit. -/
theorem RowDecoder.decode_shown {order : ScanOrder} {index : String} {settings : ScanSettings}
    {r : ScanRequest} (h : order.compile schema index settings = .ok r) (hfilter : order.rowFilter = none) :
    ∃ d, RowDecoder.create r.columns schema = .ok d ∧ ∀ hit : Json, hit.DistinctKeys →
      d.decode (Hit.shown (r.body.get? "_source") hit) = d.decode hit := by
  obtain ⟨d, hd⟩ := RowDecoder.exists_create (ScanOrder.compiled_of_compile h).isColumn
  have hprojection := ScanOrder.ofColumns_of_compile h hfilter
  refine ⟨d, hd, fun hit hdistinct => ?_⟩
  simp only [RowDecoder.create, bind_eq_ok, pure_eq_ok] at hd
  obtain ⟨sources, hsources, rfl⟩ := hd
  rw [ScanRequest.get?_body]
  cases hit with
  | obj members =>
      rw [Projection.ofColumns] at hprojection
      split at hprojection
      · rw [← Except.ok.inj hprojection]
        rfl
      · rename_i hresidual
        obtain ⟨found, hfound, hshown⟩ := map_eq_ok.1 hprojection
        have hnone : ∀ name ∈ r.columns, name ∉ residualColumns := by
          intro name hname hmem
          exact hresidual (List.any_eq_true.2 ⟨name, hname, List.contains_iff_mem.2 hmem⟩)
        -- each source that the decoder looks at was asked for
        have hwithin := RowDecoder.within_columnPaths hnone hfound hsources
        have hid : ∀ asked, (Hit.shownMembers asked members).lookup "_id" = members.lookup "_id" :=
          fun asked => Hit.lookup_shownMembers_of_ne asked (by decide)
        rw [← hshown]
        split
        · rename_i hempty
          rw [List.isEmpty_iff.1 hempty] at hwithin
          exact decode_congr (hid _) (fun _ h => absurd h List.not_mem_nil) hwithin
        · refine decode_congr (hid _) (fun path hpath => ?_) hwithin
          rw [find?_sourceOfHit, find?_sourceOfHit, Hit.lookup_source_paths]
          cases hsource : members.lookup "_source" with
          | none => rfl
          | some source => exact Json.find?_part hpath (hdistinct.member (mem_of_lookup hsource))
  | _ => rfl

/-- A table with a column that stands inside an object. -/
def authorSchema : Schema :=
  { columns := [{ name := "author", path := "author.name", type := .primitive "VARCHAR" }]
    mappedPaths := ["title", "author.name"]
    pathTypes := [("title", "text"), ("author.name", "keyword")] }

/-- A document with more than the column. -/
def authorHit : Json :=
  .obj [("_id", .str "7"), ("_source", .obj [("title", .str "Melmoth"),
    ("author", .obj [("born", .int 1780), ("name", .str "Maturin")])])]

/-- Of the document just the name of the author is fetched, and the row is the same. -/
theorem RowDecoder.decode_shown_author :
    ∃ r d, ScanOrder.compile { columns := ["author", "_id"] } authorSchema "books" {} = .ok r ∧
      authorHit.DistinctKeys ∧ RowDecoder.create r.columns authorSchema = .ok d ∧
      Hit.shown (r.body.get? "_source") authorHit = .obj [("_id", .str "7"),
        ("_source", .obj [("author", .obj [("name", .str "Maturin")])])] ∧
      d.decode (Hit.shown (r.body.get? "_source") authorHit) = d.decode authorHit := by
  obtain ⟨r, hr, hasked⟩ : ∃ r,
      ScanOrder.compile { columns := ["author", "_id"] } authorSchema "books" {} = .ok r ∧
        r.body.get? "_source" = some (.list [.str "author.name"]) := ⟨_, rfl, rfl⟩
  have hscalar : ∀ j : Json, ¬j.IsObject → j.DistinctKeys := fun _ => Json.distinctKeys_of_not_isObject
  have hkeys : authorHit.DistinctKeys := by
    simp [authorHit, Json.distinctKeys_obj_iff, hscalar, Json.IsObject]
  have hshown : Hit.shown (some (.list [.str "author.name"])) authorHit = .obj [("_id", .str "7"),
      ("_source", .obj [("author", .obj [("name", .str "Maturin")])])] := by rfl
  obtain ⟨d, hd, hrow⟩ := RowDecoder.decode_shown hr rfl
  refine ⟨r, d, hr, hkeys, hd, ?_, hrow _ hkeys⟩
  rw [hasked, hshown]

end

end SearchTables
