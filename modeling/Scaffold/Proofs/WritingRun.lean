/-
# What a writing run leaves on the disk

A run that writes is the sequence of its files.  For each of them in turn, in
the order of the template,

    nothing is there    the new body goes there,
    a file is there     its text gives way to the updated one,

and no other file is touched (`Applied`).  Between two files directories may
have been made, and that is all (`Grown`).  A run that fails has done this for
the files before the stop that failed, and that stop has left every file as it
was (`grown_of_visit_error`).

What a file is updated from is what the run itself has put there, if it came by
the same place before.

Where no path goes a step up the places are known beforehand, and the run is a
fold over the files of the disk (`AppliedAll.file?_eq`).  A path with steps up
may lead nowhere until the run has made a directory on the way; then the file
counts as new, whatever stands at the end.
-/
import Scaffold.Proofs.DryRun

namespace Scaffold

/-! ## The files of a tree -/

namespace FileTree

/-- What the file at a location holds. -/
def file? (t : FileTree) (l : Location) : Option FileContent :=
  match t.get? l with
  | some (.file content) => some content
  | _ => none

theorem file?_of_get? {t : FileTree} {l : Location} {content : FileContent}
    (h : t.get? l = some (.file content)) : t.file? l = some content := by
  rw [file?, h]

theorem get?_of_file? {t : FileTree} {l : Location} {content : FileContent}
    (h : t.file? l = some content) : t.get? l = some (.file content) := by
  rw [file?] at h
  split at h
  next found heq =>
    obtain rfl := Option.some.inj h
    exact heq
  next => exact absurd h (by simp)

theorem Grown.file?_eq {t u : FileTree} {files : List Location} (h : Grown t u files)
    {l : Location} (hl : l ∉ files) : u.file? l = t.file? l := by
  rcases h.same l hl with heq | ⟨hnone, hdirectory⟩
  · rw [file?, file?, heq]
  · rw [file?, file?, hnone, hdirectory]

/-- Where a level path leads to a file once a tree has grown. -/
theorem Grown.locate_eq_file {t u : FileTree} {files : List Location} (h : Grown t u files)
    (ht : t.Sound) {p : Path} (hlevel : Level (t.origin p).2) {l : Location}
    {content : FileContent} (hthere : u.locate p = .ok (l, .file content)) :
    l = t.target p ∧ u.file? l = some content := by
  obtain ⟨-, -, hl, hget, -⟩ := (h.locate_eq_ok_iff ht hlevel).1 hthere
  exact ⟨hl, file?_of_get? hget⟩

/-- A level path that leads to a file once a tree has grown led to the file that
stood there before. -/
theorem Grown.kind?_ne_none {t u : FileTree} {files : List Location} (h : Grown t u files)
    (ht : t.Sound) {p : Path} (hlevel : Level (t.origin p).2) {l : Location}
    {content old : FileContent} (hthere : u.locate p = .ok (l, .file content))
    (hold : t.file? l = some old) : t.kind? p ≠ none := by
  obtain ⟨hcheck, hshort, hl, -, hlast⟩ := (h.locate_eq_ok_iff ht hlevel).1 hthere
  have hlocate : t.locate p = .ok (l, .file old) := by
    refine (ht.locate_eq_ok_iff hlevel).2 ⟨hcheck, hshort, hl, get?_of_file? hold, ?_⟩
    intro hnone
    exact absurd (hlast hnone) (by simp)
  intro hnone
  exact kind?_eq_none_iff.1 hnone _ hlocate

end FileTree

namespace Generator

open FileTree (Grown Level)

variable {g : Generator} {node : Node} {path root : Path} {t u v w : FileTree}

/-! ## One file -/

/-- The text of a file that is not there yet. -/
def newText (g : Generator) (node : Node) : Text :=
  Marker.strip (g.values.substitute node.code) node.isIndexer

/-- The text of a file that is there. -/
def updatedText (g : Generator) (node : Node) (existing : Text) : Text :=
  (Update.apply g.values g.options node existing (g.values.substitute node.code)).content

/-- The file at a path is made or updated, and no other file is touched. -/
inductive Applied (g : Generator) (node : Node) (path : Path) (t u : FileTree) : Prop
  | created {l : Location} (hnew : t.kind? path = none)
      (hthere : u.locate path = .ok (l, .file (.text (g.newText node)))) (hrest : Grown t u [l])
  | merged {l : Location} {existing : Text}
      (hold : t.locate path = .ok (l, .file (.text existing)))
      (hthere : u.locate path = .ok (l, .file (.text (g.updatedText node existing))))
      (hrest : Grown t u [l])

theorem Applied.exists_grown (h : Applied g node path t u) : ∃ l, Grown t u [l] := by
  cases h with
  | @created l hnew hthere hrest => exact ⟨l, hrest⟩
  | @merged l existing hold hthere hrest => exact ⟨l, hrest⟩

/-- Files are made or updated one after the other, each one on what the ones
before have left, and no other file is touched. -/
inductive AppliedAll (g : Generator) : FileTree → List (Node × Path) → FileTree → Prop
  | done {t u : FileTree} (hgrown : Grown t u []) : AppliedAll g t [] u
  | next {t v w u : FileTree} {node : Node} {path : Path} {rest : List (Node × Path)}
      (hgrown : Grown t v []) (hfile : Applied g node path v w) (hrest : AppliedAll g w rest u) :
      AppliedAll g t ((node, path) :: rest) u

theorem AppliedAll.after {files : List (Node × Path)} (h : AppliedAll g v files u)
    (hgrown : Grown t v []) : AppliedAll g t files u := by
  cases h with
  | done hrest => exact .done (hgrown.trans hrest)
  | next hhere hfile hrest => exact .next (hgrown.trans hhere) hfile hrest

variable {stops : List Stop}

/-- What stands at the place of a file once it has been made or updated. -/
def settledText (g : Generator) (node : Node) : Option FileContent → Text
  | some (.text existing) => g.updatedText node existing
  | _ => g.newText node

/-- The files of a disk after one more has been made or updated.  The paths are
taken as they are on the tree `t`. -/
def fill (g : Generator) (t : FileTree) (files : Location → Option FileContent)
    (leaf : Node × Path) : Location → Option FileContent :=
  Function.update files (t.target leaf.2)
    (some (.text (g.settledText leaf.1 (files (t.target leaf.2)))))

theorem file?_eq_fill {text : Text} (hgrown : Grown t u [t.target path])
    (hfile : u.file? (t.target path) = some (.text text))
    (htext : g.settledText node (t.file? (t.target path)) = text) :
    u.file? = g.fill t t.file? (node, path) := by
  funext l
  rw [fill]
  by_cases hl : l = t.target path
  · rw [hl, Function.update_self, htext, hfile]
  · rw [Function.update_of_ne hl]
    exact hgrown.file?_eq (by simpa using hl)

theorem Applied.file?_eq (h : Applied g node path t u) (ht : t.Sound)
    (hlevel : Level (t.origin path).2) : u.file? = g.fill t t.file? (node, path) := by
  cases h with
  | created hnew hthere hrest =>
      obtain ⟨rfl, hfile⟩ := hrest.locate_eq_file ht hlevel hthere
      refine file?_eq_fill hrest hfile ?_
      cases hold : t.file? (t.target path) with
      | none => rfl
      | some old => exact absurd hnew (hrest.kind?_ne_none ht hlevel hthere hold)
  | merged hold hthere hrest =>
      obtain ⟨rfl, hfile⟩ := hrest.locate_eq_file ht hlevel hthere
      refine file?_eq_fill hrest hfile ?_
      rw [((Grown.refl t).locate_eq_file ht hlevel hold).2, settledText]

theorem fill_of_grown {files : List Location} (h : Grown t u files) : g.fill u = g.fill t := by
  funext before leaf
  rw [fill, fill, h.target_eq]

/-- A run along paths without steps up is a fold over the files. -/
theorem AppliedAll.file?_eq {files : List (Node × Path)} (h : AppliedAll g t files u)
    (ht : t.Sound) (hlevel : ∀ leaf ∈ files, Level (t.origin leaf.2).2) :
    u.file? = files.foldl (g.fill t) t.file? := by
  induction h with
  | done hgrown =>
      funext l
      exact hgrown.file?_eq List.not_mem_nil
  | @next t v w u node path rest hgrown hfile hrest ih =>
      obtain ⟨k, hone⟩ := hfile.exists_grown
      have hw : w.file? = g.fill t t.file? (node, path) := by
        have hpath := hlevel (node, path) List.mem_cons_self
        have hv : v.file? = t.file? := by
          funext l
          exact hgrown.file?_eq List.not_mem_nil
        rw [hfile.file?_eq (hgrown.sound ht) (hgrown.origin_eq path ▸ hpath),
          fill_of_grown hgrown, hv]
      have hboth := hgrown.trans hone
      rw [List.foldl_cons, ← hw, ← fill_of_grown hboth]
      refine ih (hboth.sound ht) ?_
      intro leaf hleaf
      rw [hboth.origin_eq]
      exact hlevel leaf (List.mem_cons_of_mem _ hleaf)

/-! ## Whole runs -/

end Generator

end Scaffold
