/-
# What a run visits

The files that a run reports are those of its template: each trail of names
from a group down to a leaf is one file, in the order of the template, unless a
name on the trail is blank once its placeholders are filled in (`visits`).
Neither the disk nor the mode has a say in it (`changes_of_tour`), and a run
that only looks leaves the disk as it was even if it fails.

Every file that is counted in the template is visited or stands at or below a
node that the run passes over (`fileCounts_eq`).  A node always describes a
file, so a run visits as many files as are counted exactly if it passes over
nothing.
-/
import Scaffold.Proofs.DryRun
import Scaffold.Proofs.RelativePaths

namespace Scaffold

open Text (allBlank)

/-! ## Trails -/

mutual

/-- The names on the way from a node to each of its files, in order. -/
def Node.trails : Node → List (List Text)
  | ⟨name, _, _, children, _⟩ =>
    if children.isEmpty then [[name]] else (Node.trailsOf children).map (name :: ·)

/-- The names on the way to each file of a forest, in order. -/
def Node.trailsOf : List Node → List (List Text)
  | [] => []
  | node :: rest => node.trails ++ Node.trailsOf rest

end

namespace Generator

variable (values : Placeholders)

/-- No name of the trail is blank, once its placeholders are filled in. -/
def named (trail : List Text) : Bool :=
  trail.all fun name => !allBlank (values.substitute name)

/-- The path at the end of a trail that starts in a directory. -/
def descend (directory : Path) (trail : List Text) : Path :=
  trail.foldl (fun path name => path.join ⟨values.substitute name⟩) directory

/-- The files of a forest in a directory that have a name all the way down. -/
def forestVisits (directory : Path) (nodes : List Node) : List Path :=
  ((Node.trailsOf nodes).filter (named values)).map (descend values directory)

/-- The files that a run of a template comes by. -/
def visits (root : Path) (template : Template) : List Path :=
  template.filePaths.flatMap fun group =>
    forestVisits values (root.join ⟨values.substitute group.path⟩) group.nodes

mutual

/-- The nodes at or below a node that a run comes to and passes over. -/
def nodeOmitted : Node → List Node
  | ⟨name, code, isIndexer, children, insertions⟩ =>
    if allBlank (values.substitute name) then [⟨name, code, isIndexer, children, insertions⟩]
    else omitted children

/-- The nodes of a forest that a run comes to and passes over. -/
def omitted : List Node → List Node
  | [] => []
  | node :: rest => nodeOmitted node ++ omitted rest

end

/-- The nodes of a template that a run comes to and passes over. -/
def templateOmitted (template : Template) : List Node :=
  template.filePaths.flatMap fun group => omitted values group.nodes

/-- The trails of a node without those that a blank name breaks off. -/
theorem filter_named_trails (name code : Text) (isIndexer : Bool) (children : List Node)
    (insertions : List Edit) :
    (Node.trails ⟨name, code, isIndexer, children, insertions⟩).filter (named values) =
      if allBlank (values.substitute name) then []
      else if children.isEmpty then [[name]]
      else ((Node.trailsOf children).filter (named values)).map (name :: ·) := by
  have hcons : named values ∘ (name :: ·) =
      fun trail => !allBlank (values.substitute name) && named values trail := rfl
  rw [Node.trails]
  cases hblank : allBlank (values.substitute name) with
  | true =>
      split
      · simp [named, hblank]
      · simp [List.filter_map, hcons, hblank]
  | false =>
      simp only [Bool.false_eq_true, if_false]
      split
      · simp [named, hblank]
      · simp [List.filter_map, hcons, hblank]

/-! ## The stops are the trails -/

/-- The path of a file that a run comes by. -/
def Stop.path? : Stop → Option Path
  | .directory _ => none
  | .file _ path => some path

variable {values} {g : Generator}

theorem filterMap_stops (directory : Path) (nodes : List Node) :
    (g.stops directory nodes).filterMap Stop.path? = forestVisits g.values directory nodes := by
  induction directory, nodes using stops.induct g
    (fun directory node => (g.nodeStops directory node).filterMap Stop.path? =
      ((node.trails).filter (named g.values)).map (descend g.values directory)) with
  | case1 directory name code isIndexer children insertions hblank =>
      rw [nodeStops, if_pos hblank, filter_named_trails, if_pos hblank]
      rfl
  | case2 directory name code isIndexer children insertions path hblank hkind ih =>
      have hchildren : ¬ children.isEmpty = true := by simpa [Node.isDirectory] using hkind
      rw [nodeStops, if_neg hblank, if_pos hkind, filter_named_trails, if_neg hblank,
        if_neg hchildren, List.filterMap_cons_none rfl, ih, forestVisits, List.map_map]
      rfl
  | case3 directory name code isIndexer children insertions hblank hkind =>
      have hchildren : children.isEmpty = true := by simpa [Node.isDirectory] using hkind
      rw [nodeStops, if_neg hblank, if_neg hkind, filter_named_trails, if_neg hblank,
        if_pos hchildren]
      rfl
  | case4 directory => rfl
  | case5 directory node rest ihn ihr =>
      rw [stops, List.filterMap_append, ihn, ihr, forestVisits, forestVisits, Node.trailsOf,
        List.filter_append, List.map_append]

theorem filterMap_groupStops (root : Path) (template : Template) :
    (g.groupStops root template.filePaths).filterMap Stop.path? =
      visits g.values root template := by
  rw [visits]
  induction template.filePaths with
  | nil => rfl
  | cons group rest ih =>
      rw [groupStops, List.cons_append, List.filterMap_cons_none rfl, List.filterMap_append, ih,
        filterMap_stops, List.flatMap_cons]

/-! ## How many there are -/

theorem fileCount_eq (name code : Text) (isIndexer : Bool) (children : List Node)
    (insertions : List Edit) :
    Node.fileCount ⟨name, code, isIndexer, children, insertions⟩ =
      if children.isEmpty then 1 else Node.fileCounts children := by
  cases children <;> rfl

/-- Every node describes a file. -/
theorem fileCount_pos : ∀ node : Node, 0 < node.fileCount
  | ⟨_, _, _, [], _⟩ => Nat.one_pos
  | ⟨_, _, _, child :: rest, _⟩ => by
    have hchild := fileCount_pos child
    rw [Node.fileCount]
    omega

theorem fileCounts_append (a b : List Node) :
    Node.fileCounts (a ++ b) = Node.fileCounts a + Node.fileCounts b := by
  induction a with
  | nil => exact (Nat.zero_add _).symm
  | cons node rest ih => rw [List.cons_append, Node.fileCounts, ih, Node.fileCounts, Nat.add_assoc]

theorem fileCounts_eq_zero_iff {nodes : List Node} : Node.fileCounts nodes = 0 ↔ nodes = [] := by
  cases nodes with
  | nil => exact iff_of_true rfl rfl
  | cons node rest =>
      have hpos := fileCount_pos node
      refine iff_of_false ?_ (List.cons_ne_nil node rest)
      rw [Node.fileCounts]
      omega

/-- The files of a forest are visited, or stand at or below a node that is
passed over. -/
theorem fileCounts_eq (values : Placeholders) (nodes : List Node) :
    ((Node.trailsOf nodes).filter (named values)).length +
        Node.fileCounts (omitted values nodes) =
      Node.fileCounts nodes := by
  induction nodes using omitted.induct values
    (fun node => (node.trails.filter (named values)).length +
        Node.fileCounts (nodeOmitted values node) = node.fileCount) with
  | case1 name code isIndexer children insertions hblank =>
      rw [filter_named_trails, if_pos hblank, nodeOmitted, if_pos hblank]
      simp [Node.fileCounts]
  | case2 name code isIndexer children insertions hblank ih =>
      rw [filter_named_trails, if_neg hblank, nodeOmitted, if_neg hblank, fileCount_eq]
      split
      next hempty =>
        rw [List.isEmpty_iff.1 hempty]
        rfl
      next => rw [List.length_map, ih]
  | case3 => rfl
  | case4 node rest ihn ihr =>
      rw [Node.trailsOf, List.filter_append, List.length_append, omitted, fileCounts_append,
        Node.fileCounts, ← ihn, ← ihr]
      omega

theorem fileCount_template (values : Placeholders) (root : Path) (template : Template) :
    (visits values root template).length +
        Node.fileCounts (templateOmitted values template) =
      template.fileCount := by
  rw [visits, templateOmitted, Template.fileCount]
  induction template.filePaths with
  | nil => rfl
  | cons group rest ih =>
      rw [List.flatMap_cons, List.flatMap_cons, List.length_append, fileCounts_append,
        List.foldr_cons, ← ih, ← fileCounts_eq values group.nodes, forestVisits, List.length_map]
      omega

/-! ## Runs -/

variable {writing : Bool} {root : Path} {t u : FileTree} {changes : List Change}

theorem changes_of_visit {stop : Stop}
    (h : on (stop.visit g writing root) t = (.ok changes, u)) :
    changes.map (fun c => (c.path, c.relative)) =
      stop.path?.toList.map fun path => (path, path.relativeTo root) := by
  cases stop with
  | file node path =>
      obtain ⟨kind, -, rfl⟩ := visit_file_eq_ok h
      rfl
  | directory path =>
      cases writing with
      | true =>
          obtain ⟨rfl, -⟩ := visit_directory_eq_ok h
          rfl
      | false =>
          have hnone : on (Stop.visit g false root (.directory path)) t = (.ok [], t) := rfl
          obtain ⟨rfl, -⟩ : [] = changes ∧ t = u := by simpa [hnone] using h
          rfl

theorem changes_of_tour {stops : List Stop}
    (h : on (tour g writing root stops) t = (.ok changes, u)) :
    changes.map (fun c => (c.path, c.relative)) =
      (stops.filterMap Stop.path?).map fun path => (path, path.relativeTo root) := by
  induction stops generalizing t changes with
  | nil =>
      obtain ⟨rfl, -⟩ : [] = changes ∧ t = u := by simpa [tour, on_pure] using h
      rfl
  | cons stop rest ih =>
      obtain ⟨here, later, w, hvisit, htour, rfl⟩ := tour_cons_eq_ok h
      rw [List.map_append, changes_of_visit hvisit, ih htour]
      cases hpath : stop.path? with
      | none => rw [List.filterMap_cons_none hpath]; rfl
      | some path => rw [List.filterMap_cons_some hpath]; rfl

theorem absoluteOn_of_isAbsolute (h : root.isAbsolute = true) (t : FileTree) :
    absoluteOn t root = root :=
  if_pos h

theorem changes_of_walkTemplate (habsolute : root.isAbsolute = true) {template : Template}
    {report : Report} (h : (on (g.walkTemplate writing template root) t).1 = .ok report) :
    report.changes.map (fun c => (c.path, c.relative)) =
      (visits g.values root template).map fun path => (path, path.relativeTo root) := by
  have hrun : on (g.walkTemplate writing template root) t = (.ok report, _) := Prod.ext h rfl
  have htour := on_walkTemplate_eq_ok_iff.1 hrun
  rw [absoluteOn_of_isAbsolute habsolute] at htour
  rw [changes_of_tour htour, itinerary, absoluteOn_of_isAbsolute habsolute, filterMap_groupStops]

theorem isAbsolute_descend {directory : Path} (h : directory.isAbsolute = true)
    (trail : List Text) : (descend values directory trail).isAbsolute = true := by
  induction trail generalizing directory with
  | nil => exact h
  | cons name rest ih => exact ih (Path.isAbsolute_join h _)

theorem isAbsolute_of_mem_visits (habsolute : root.isAbsolute = true) {template : Template}
    {path : Path} (h : path ∈ visits values root template) : path.isAbsolute = true := by
  obtain ⟨group, -, h⟩ := List.mem_flatMap.1 h
  obtain ⟨trail, -, rfl⟩ := List.mem_map.1 h
  exact isAbsolute_descend (Path.isAbsolute_join habsolute _) trail

/-- A run that only looks leaves everything as it was. -/
theorem on_plan_snd (g : Generator) (template : Template) (root : Path) (t : FileTree) :
    (on (g.plan template root) t).2 = t := by
  rw [plan, on_walkTemplate, on_tour_false]

theorem on_preview_snd (g : Generator) (template : Template) (root : Path) (t : FileTree) :
    (on (g.preview template root) t).2 = t := by
  have hplan := on_plan_snd g template root t
  rw [preview, on_bind]
  rcases h : on (g.plan template root) t with ⟨f | report, u⟩
  all_goals
    rw [h] at hplan
    exact hplan

/-- All runs of a template with the same values report the same files, on any
disk and in any mode: those with a name all the way down, in order.  They are as
many as the template counts exactly if no node is passed over.  A run that only
looks changes nothing, whether or not it succeeds. -/
theorem changes_eq_visits (values : Placeholders) (template : Template) {root : Path}
    (habsolute : root.isAbsolute = true) :
    (∀ (g : Generator) (t : FileTree) (report : Report), g.values = values →
        (on (g.run template root) t).1 = .ok report ∨
          (on (g.plan template root) t).1 = .ok report →
        report.changes.map (fun c => (c.path, c.relative)) =
          (visits values root template).map fun path => (path, path.relativeTo root)) ∧
      (∀ path ∈ visits values root template,
        (root.join (path.relativeTo root)).components = path.components) ∧
      (visits values root template).length ≤ template.fileCount ∧
      ((visits values root template).length = template.fileCount ↔
        templateOmitted values template = []) ∧
      ∀ (g : Generator) (place : Path) (t : FileTree),
        (on (g.plan template place) t).2 = t ∧ (on (g.preview template place) t).2 = t ∧
          (g.dryRun = true → (on (g.run template place) t).2 = t) := by
  have hcount := fileCount_template values root template
  refine ⟨?_, ?_, by omega, ?_, ?_⟩
  · rintro g t report rfl (h | h)
    · exact changes_of_walkTemplate habsolute h
    · exact changes_of_walkTemplate habsolute h
  · intro path hpath
    exact Path.components_join_relativeTo habsolute (isAbsolute_of_mem_visits habsolute hpath)
  · rw [← fileCounts_eq_zero_iff]
    omega
  · intro g place t
    refine ⟨on_plan_snd g template place t, on_preview_snd g template place t, ?_⟩
    intro hdry
    rw [run, hdry]
    exact on_plan_snd g template place t

/-- A directory with a step up in its path, a file in it, and a node without a
name that is passed over with the file below it. -/
theorem changes_of_step_up :
    let g : Generator := { values := .empty, dryRun := true }
    let file : Node := { name := "a".toList, code := "x".toList }
    let nodes : List Node := [{ name := "..".toList, children := [file] },
      { name := " ".toList, children := [file] }]
    let template : Template := { filePaths := [{ path := "d".toList, nodes := nodes }] }
    let root : Path := ⟨"/w".toList⟩
    let report : Report := ⟨[⟨⟨"/w/d/../a".toList⟩, ⟨"d/../a".toList⟩, .created⟩]⟩
    root.isAbsolute = true ∧ (on (g.run template root) (.startingAt [])).1 = .ok report ∧
      report.changes.map (fun c => (c.path, c.relative)) =
        (visits g.values root template).map fun path => (path, path.relativeTo root) := by
  intro g file nodes template root report
  have hreport : (on (g.run template root) (.startingAt [])).1 = .ok report := by
    rw [run, on_walkTemplate]
    decide +kernel
  exact ⟨rfl, hreport,
    (changes_eq_visits .empty template rfl).1 g (.startingAt []) report rfl (.inl hreport)⟩

end Generator

end Scaffold
