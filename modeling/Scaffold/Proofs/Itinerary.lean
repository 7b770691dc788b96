/-
# The stops of a run

Where a run goes does not hang on the disk: the template and the values of its
placeholders give the directories and files that it comes by, one after the
other (`stops`).  A run is a tour of them (`walkTemplate_eq_tour`), so what is
to be known of a run follows from what one stop does.
-/
import Scaffold.Generator

namespace Scaffold.Generator

/-- A directory or a file that a run comes by. -/
inductive Stop where
  | directory (path : Path)
  | file (node : Node) (path : Path)

mutual

/-- The stops of a node in a directory. -/
def nodeStops (g : Generator) : Path → Node → List Stop
  | directory, ⟨name, code, isIndexer, children, insertions⟩ =>
    let path := directory.join ⟨g.values.substitute name⟩
    if Text.allBlank (g.values.substitute name) then []
    else if Node.isDirectory ⟨name, code, isIndexer, children, insertions⟩ then
      .directory path :: stops g path children
    else [.file ⟨name, code, isIndexer, children, insertions⟩ path]
termination_by structural _ node => node

/-- The stops of a forest in a directory. -/
def stops (g : Generator) : Path → List Node → List Stop
  | _, [] => []
  | directory, node :: rest => nodeStops g directory node ++ stops g directory rest
termination_by structural _ nodes => nodes

end

/-- The stops of several groups. -/
def groupStops (g : Generator) (root : Path) : List PathGroup → List Stop
  | [] => []
  | group :: rest =>
    let base := root.join ⟨g.values.substitute group.path⟩
    .directory base :: g.stops base group.nodes ++ groupStops g root rest

theorem stops_dryRun (g : Generator) (b : Bool) (directory : Path) (nodes : List Node) :
    stops { g with dryRun := b } directory nodes = g.stops directory nodes := by
  induction directory, nodes using stops.induct g
    (fun directory node => nodeStops { g with dryRun := b } directory node =
      g.nodeStops directory node) with
  | case1 directory name code isIndexer children insertions hblank =>
      rw [nodeStops, nodeStops, if_pos hblank, if_pos hblank]
  | case2 directory name code isIndexer children insertions path hblank hkind ih =>
      rw [nodeStops, nodeStops, if_neg hblank, if_neg hblank, if_pos hkind, if_pos hkind, ih]
  | case3 directory name code isIndexer children insertions hblank hkind =>
      rw [nodeStops, nodeStops, if_neg hblank, if_neg hblank, if_neg hkind, if_neg hkind]
  | case4 directory => rw [stops, stops]
  | case5 directory node rest ihn ihr => rw [stops, stops, ihn, ihr]

theorem groupStops_dryRun (g : Generator) (b : Bool) (root : Path) (groups : List PathGroup) :
    groupStops { g with dryRun := b } root groups = g.groupStops root groups := by
  induction groups with
  | nil => rfl
  | cons group rest ih => rw [groupStops, groupStops, ih, stops_dryRun]

section Tour

variable {m : Type → Type} [Monad m] [Disk m]

/-- Makes one stop. -/
def Stop.visit (g : Generator) (writing : Bool) (root : Path) :
    Stop → ExceptT Failure m (List Change)
  | .directory path => do
    if writing then ensureDirectory path
    return []
  | .file node path => do
    let kind ← g.visitFile writing node path
    return [⟨path, path.relativeTo root, kind⟩]

/-- Makes all stops. -/
def tour (g : Generator) (writing : Bool) (root : Path) :
    List Stop → ExceptT Failure m (List Change)
  | [] => return []
  | stop :: rest => do
    let changes ← stop.visit g writing root
    return changes ++ (← tour g writing root rest)

variable [LawfulMonad m]

theorem tour_append (g : Generator) (writing : Bool) (root : Path) (a b : List Stop) :
    tour (m := m) g writing root (a ++ b) = do
      let changes ← tour g writing root a
      return changes ++ (← tour g writing root b) := by
  induction a with
  | nil => simp only [List.nil_append, tour, pure_bind, bind_pure]
  | cons stop rest ih =>
      simp only [List.cons_append, tour, ih, bind_assoc, pure_bind, List.append_assoc]

theorem walk_eq_tour (g : Generator) (writing : Bool) (root directory : Path) (nodes : List Node) :
    walk (m := m) g writing root directory nodes =
      tour g writing root (g.stops directory nodes) := by
  -- a walk through one node is a tour of its stops, whatever comes behind it
  induction directory, nodes using stops.induct g
    (fun directory node => ∀ rest, walk (m := m) g writing root directory (node :: rest) = do
      let changes ← tour g writing root (g.nodeStops directory node)
      return changes ++ (← walk g writing root directory rest)) with
  | case1 directory name code isIndexer children insertions hblank rest =>
      rw [walk, nodeStops, if_pos hblank, if_pos hblank]
      simp only [tour]
  | case2 directory name code isIndexer children insertions path hblank hkind ih rest =>
      rw [walk, nodeStops, if_neg hblank, if_neg hblank, if_pos hkind, if_pos hkind]
      simp only [path] at ih
      cases writing <;>
        simp only [ih, tour, Stop.visit, bind_assoc, pure_bind, List.nil_append,
          Bool.false_eq_true, if_false, if_true]
  | case3 directory name code isIndexer children insertions hblank hkind rest =>
      rw [walk, nodeStops, if_neg hblank, if_neg hblank, if_neg hkind, if_neg hkind]
      simp only [tour, Stop.visit, bind_assoc, pure_bind, List.append_nil]
  | case4 directory => rw [walk, stops, tour]
  | case5 directory node rest ihn ihr => rw [ihn, ihr, stops, tour_append]

theorem walkGroups_eq_tour (g : Generator) (writing : Bool) (root : Path)
    (groups : List PathGroup) :
    walkGroups (m := m) g writing root groups =
      tour g writing root (g.groupStops root groups) := by
  induction groups with
  | nil => rw [walkGroups, groupStops, tour]
  | cons group rest ih =>
      rw [walkGroups, groupStops, List.cons_append, tour, ih, walk_eq_tour]
      cases writing <;>
        simp only [tour_append, Stop.visit, bind_assoc, pure_bind, List.nil_append,
          Bool.false_eq_true, if_false, if_true]

/-- A run is a tour from the root. -/
theorem walkTemplate_eq_tour (g : Generator) (writing : Bool) (t : Template) (root : Path) :
    walkTemplate (m := m) g writing t root = do
      let root ← absolute root
      return ⟨← tour g writing root (g.groupStops root t.filePaths)⟩ := by
  simp only [walkTemplate, walkGroups_eq_tour]

/-! ## Dry or not -/

omit [LawfulMonad m] in
theorem tour_dryRun (g : Generator) (b writing : Bool) (root : Path) (stops : List Stop) :
    tour (m := m) { g with dryRun := b } writing root stops = tour g writing root stops := by
  induction stops with
  | nil => rfl
  | cons stop rest ih =>
      have hvisit : stop.visit (m := m) { g with dryRun := b } writing root =
          stop.visit g writing root := by
        cases stop <;> rfl
      rw [tour, tour, ih, hvisit]

/-- The mode of a generator only says whether its runs write. -/
theorem walkTemplate_dryRun (g : Generator) (b writing : Bool) (t : Template) (root : Path) :
    walkTemplate (m := m) { g with dryRun := b } writing t root =
      g.walkTemplate writing t root := by
  simp only [walkTemplate_eq_tour, tour_dryRun, groupStops_dryRun]

end Tour

end Scaffold.Generator
