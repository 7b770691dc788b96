/-
# A dry run and the run it stands for

A dry run judges every file on the disk as it is (`on_tour_false`), a run that
writes judges it on the disk that the stops before have left.  A run that
succeeds reports its own verdicts, so a dry run reports the same if every file
is judged alike on both (`Steady`), and only then.

The verdicts can differ in two ways.  A file that the template describes twice
is new only once, and a path with steps up may lead through a directory that
the run has made.  Where neither happens a dry run is exact
(`steady_of_apart`): what a run does to the disk before it comes by a file
leaves the place of that file as it was, or makes it a directory, and then the
run fails.
-/
import Mathlib.Control.Monad.Basic
import Scaffold.Proofs.DiskFrame
import Scaffold.Proofs.Itinerary

namespace Scaffold

/-! ## One step after the other -/

namespace FileTree

theorem bind_apply {α β : Type} (step : StateM FileTree α) (next : α → StateM FileTree β)
    (t : FileTree) : (step >>= next) t = next (step t).1 (step t).2 := rfl

variable {ε α β : Type} {step : ExceptT ε (StateM FileTree) α}
  {next : α → ExceptT ε (StateM FileTree) β} {t v : FileTree}

/-- What a step answers on a file tree, and the tree after it. -/
def outcome (t : FileTree) (step : ExceptT ε (StateM FileTree) α) : Except ε α × FileTree :=
  step.run t

variable (step next t) in
/-- Two steps one after the other; the first that fails is the last. -/
theorem outcome_bind :
    t.outcome (step >>= next) =
      match t.outcome step with
      | (.ok a, u) => u.outcome (next a)
      | (.error e, u) => (.error e, u) := by
  rw [outcome, ExceptT.run_bind, bind_apply, outcome]
  rcases step.run t with ⟨e | a, u⟩ <;> rfl

theorem outcome_bind_eq_ok {b : β} :
    t.outcome (step >>= next) = (.ok b, v) ↔
      ∃ a u, t.outcome step = (.ok a, u) ∧ u.outcome (next a) = (.ok b, v) := by
  rw [outcome_bind]
  rcases t.outcome step with ⟨e | a, u⟩
  · simp
  · constructor
    · intro h
      exact ⟨a, u, rfl, h⟩
    · rintro ⟨a', u', heq, h⟩
      obtain ⟨rfl, rfl⟩ : a = a' ∧ u = u' := by simpa using heq
      exact h

theorem outcome_bind_eq_error {e : ε} :
    t.outcome (step >>= next) = (.error e, v) ↔ t.outcome step = (.error e, v) ∨
      ∃ a u, t.outcome step = (.ok a, u) ∧ u.outcome (next a) = (.error e, v) := by
  rw [outcome_bind]
  rcases t.outcome step with ⟨e' | a, u⟩
  · simp
  · constructor
    · intro h
      exact .inr ⟨a, u, rfl, h⟩
    · rintro (heq | ⟨a', u', heq, h⟩)
      · exact absurd heq (by simp)
      · obtain ⟨rfl, rfl⟩ : a = a' ∧ u = u' := by simpa using heq
        exact h

end FileTree

namespace Generator

open FileTree (Level Grown MakesDirectories Sound)

/-! ## Steps on a file tree -/

/-- What a step answers on a file tree, and the tree after it. -/
def on {α : Type} (step : ExceptT Failure (StateM FileTree) α) (t : FileTree) :
    Except Failure α × FileTree :=
  step.run t

theorem on_pure {α : Type} (a : α) (t : FileTree) : on (pure a) t = (.ok a, t) := rfl

theorem on_bind {α β : Type} (step : ExceptT Failure (StateM FileTree) α)
    (next : α → ExceptT Failure (StateM FileTree) β) (t : FileTree) :
    on (step >>= next) t =
      match on step t with
      | (.ok a, u) => on (next a) u
      | (.error f, u) => (.error f, u) := by
  refine (FileTree.outcome_bind step next t).trans ?_
  rw [on, FileTree.outcome]
  rcases step.run t with ⟨f | a, u⟩ <;> rfl

theorem on_bind_eq_ok {α β : Type} {step : ExceptT Failure (StateM FileTree) α}
    {next : α → ExceptT Failure (StateM FileTree) β} {t v : FileTree} {b : β} :
    on (step >>= next) t = (.ok b, v) ↔
      ∃ a u, on step t = (.ok a, u) ∧ on (next a) u = (.ok b, v) :=
  FileTree.outcome_bind_eq_ok

/-- What a run says of a file as it is. -/
def verdict (g : Generator) (node : Node) (path : Path) (t : FileTree) :
    Except Failure ChangeKind :=
  if (t.kind? path).isNone then .ok .created
  else
    match t.read path with
    | .error f => .error ⟨.read, path, f⟩
    | .ok existing =>
      if (Update.apply g.values g.options node existing (g.values.substitute node.code)).changed
      then .ok .modified
      else .ok .unchanged

variable {g : Generator} {node : Node} {path : Path} {t u : FileTree} {kind : ChangeKind}

theorem on_kind? (path : Path) (t : FileTree) :
    on (look (Disk.kind? path)) t = (.ok (t.kind? path), t) := rfl

theorem on_read (path : Path) (t : FileTree) :
    on (perform .read path (Disk.read path)) t =
      ((t.read path).mapError (fun f => ⟨.read, path, f⟩), t) := rfl

theorem on_visitFile_false (g : Generator) (node : Node) (path : Path) (t : FileTree) :
    on (g.visitFile false node path) t = (g.verdict node path t, t) := by
  rw [visitFile, on_bind, on_kind?, verdict]
  dsimp only
  cases (t.kind? path).isNone with
  | true => rfl
  | false =>
      simp only [Bool.false_eq_true, if_false, on_bind, on_read]
      cases t.read path with
      | error f => rfl
      | ok existing =>
          simp only [Except.mapError]
          split <;> rfl

theorem on_write (path : Path) (text : Text) (t : FileTree) :
    on (perform .write path (Disk.write path text)) t =
      match t.write path (.text text) with
      | .ok u => (.ok (), u)
      | .error f => (.error ⟨.write, path, f⟩, t) := by
  have hupdate : on (perform .write path (Disk.write path text)) t =
      ((FileTree.update (fun t => t.write path (.text text)) t).1.mapError
        (fun f => ⟨.write, path, f⟩),
       (FileTree.update (fun t => t.write path (.text text)) t).2) := rfl
  rw [hupdate, FileTree.update]
  cases t.write path (.text text) <;> rfl

theorem write_of_on {text : Text} {r : Unit} {v : FileTree}
    (h : on (perform .write path (Disk.write path text)) t = (.ok r, v)) :
    t.write path (.text text) = .ok v := by
  rw [on_write] at h
  cases hw : t.write path (.text text) with
  | error f => simp [hw] at h
  | ok w =>
      simp only [hw, Prod.mk.injEq, true_and] at h
      rw [h]

/-- What a writing run does to a file that it comes by. -/
inductive Visited (g : Generator) (node : Node) (path : Path) (t : FileTree) :
    ChangeKind → FileTree → Prop
  | created {v u : FileTree} (hnew : t.kind? path = none)
      (hparent : on (ensureParent path) t = (.ok (), v))
      (hwrite : v.write path
        (.text (Marker.strip (g.values.substitute node.code) node.isIndexer)) = .ok u) :
      Visited g node path t .created u
  | modified {existing : Text} {u : FileTree} (hread : t.read path = .ok existing)
      (hchanged : (Update.apply g.values g.options node existing
        (g.values.substitute node.code)).changed = true)
      (hwrite : t.write path (.text (Update.apply g.values g.options node existing
        (g.values.substitute node.code)).content) = .ok u) :
      Visited g node path t .modified u
  | unchanged {existing : Text} (hread : t.read path = .ok existing)
      (hsame : (Update.apply g.values g.options node existing
        (g.values.substitute node.code)).changed = false) :
      Visited g node path t .unchanged t

theorem Visited.of_on (h : on (g.visitFile true node path) t = (.ok kind, u)) :
    Visited g node path t kind u := by
  rw [visitFile, on_bind, on_kind?] at h
  dsimp only at h
  cases hkind : t.kind? path with
  | none =>
      simp only [hkind, Option.isNone_none, if_true] at h
      obtain ⟨_, v, hparent, h⟩ := on_bind_eq_ok.1 h
      obtain ⟨_, w, hw, h⟩ := on_bind_eq_ok.1 h
      rw [on_pure] at h
      obtain ⟨rfl, rfl⟩ : ChangeKind.created = kind ∧ w = u := by simpa using h
      exact .created hkind hparent (write_of_on hw)
  | some found =>
      simp only [hkind, Option.isNone_some, Bool.false_eq_true, if_false] at h
      obtain ⟨existing, v, hread, h⟩ := on_bind_eq_ok.1 h
      rw [on_read] at hread
      cases hr : t.read path with
      | error f => simp [hr, Except.mapError] at hread
      | ok text =>
          obtain ⟨rfl, rfl⟩ : text = existing ∧ t = v := by
            simpa [hr, Except.mapError] using hread
          split at h
          next hchanged =>
            obtain ⟨_, w, hw, h⟩ := on_bind_eq_ok.1 h
            rw [on_pure] at h
            obtain ⟨rfl, rfl⟩ : ChangeKind.modified = kind ∧ w = u := by simpa using h
            exact .modified hr hchanged (write_of_on hw)
          next hsame =>
            rw [on_pure] at h
            obtain ⟨rfl, rfl⟩ : ChangeKind.unchanged = kind ∧ t = u := by simpa using h
            exact .unchanged hr (Bool.eq_false_iff.2 hsame)

theorem Visited.verdict (h : Visited g node path t kind u) :
    g.verdict node path t = .ok kind := by
  rw [Generator.verdict]
  cases h with
  | created hnew hparent hwrite =>
      rw [hnew]
      rfl
  | modified hread hchanged hwrite =>
      rw [FileTree.kind?_of_read hread, hread]
      exact if_pos hchanged
  | unchanged hread hsame =>
      rw [FileTree.kind?_of_read hread, hread]
      exact if_neg (Bool.eq_false_iff.1 hsame)

/-! ## All files -/

/-- What a run says of its files if it takes each one as it is now. -/
def judge (g : Generator) (root : Path) (t : FileTree) : List Stop → Except Failure (List Change)
  | [] => return []
  | .directory _ :: rest => judge g root t rest
  | .file node path :: rest => do
    let kind ← g.verdict node path t
    return ⟨path, path.relativeTo root, kind⟩ :: (← judge g root t rest)

theorem on_tour_false (g : Generator) (root : Path) (stops : List Stop) (t : FileTree) :
    on (tour g false root stops) t = (judge g root t stops, t) := by
  induction stops with
  | nil => rfl
  | cons stop rest ih =>
      cases stop with
      | directory path =>
          have hvisit : on (Stop.visit g false root (.directory path)) t = (.ok [], t) := rfl
          rw [tour, on_bind, hvisit]
          dsimp only
          rw [on_bind, ih, judge]
          cases judge g root t rest <;> rfl
      | file node path =>
          rw [tour, on_bind, Stop.visit, on_bind, on_visitFile_false, judge]
          cases g.verdict node path t with
          | error f => rfl
          | ok kind =>
              dsimp only [on_pure]
              rw [on_bind, ih]
              cases judge g root t rest <;> rfl

/-- Every file is judged on the disk `t` as on the disk that a writing run has
when it comes by; the run goes on from the disk given next. -/
def Steady (g : Generator) (root : Path) (t : FileTree) : FileTree → List Stop → Prop
  | _, [] => True
  | u, stop :: rest =>
    (∀ node path, stop = .file node path → g.verdict node path t = g.verdict node path u) ∧
      Steady g root t (on (stop.visit g true root) u).2 rest

variable {root : Path} {v : FileTree} {changes : List Change} {stop : Stop} {rest : List Stop}
  {writing : Bool}

theorem tour_cons_eq_ok (h : on (tour g writing root (stop :: rest)) u = (.ok changes, v)) :
    ∃ here later w, on (stop.visit g writing root) u = (.ok here, w) ∧
      on (tour g writing root rest) w = (.ok later, v) ∧ changes = here ++ later := by
  rw [tour] at h
  obtain ⟨here, w, hvisit, h⟩ := on_bind_eq_ok.1 h
  obtain ⟨later, w', htour, h⟩ := on_bind_eq_ok.1 h
  rw [on_pure] at h
  obtain ⟨rfl, rfl⟩ : here ++ later = changes ∧ w' = v := by simpa using h
  exact ⟨here, later, w, hvisit, htour, rfl⟩

theorem visit_file_eq_ok
    (h : on (Stop.visit g writing root (.file node path)) u = (.ok changes, v)) :
    ∃ kind, on (g.visitFile writing node path) u = (.ok kind, v) ∧
      changes = [⟨path, path.relativeTo root, kind⟩] := by
  rw [Stop.visit] at h
  obtain ⟨kind, w, hvisit, h⟩ := on_bind_eq_ok.1 h
  rw [on_pure] at h
  obtain ⟨rfl, rfl⟩ : [⟨path, path.relativeTo root, kind⟩] = changes ∧ w = v := by simpa using h
  exact ⟨kind, hvisit, rfl⟩

theorem visit_directory_eq_ok
    (h : on (Stop.visit g true root (.directory path)) u = (.ok changes, v)) :
    changes = [] ∧ on (ensureDirectory path) u = (.ok (), v) := by
  rw [Stop.visit, if_pos rfl] at h
  obtain ⟨_, w, hmade, h⟩ := on_bind_eq_ok.1 h
  rw [on_pure] at h
  obtain ⟨rfl, rfl⟩ : [] = changes ∧ w = v := by simpa using h
  exact ⟨rfl, hmade⟩

/-- A run that succeeds reports what is true of the disk `t` exactly if it finds
every file as on `t`. -/
theorem judge_eq_ok_iff {stops : List Stop}
    (h : on (tour g true root stops) u = (.ok changes, v)) :
    judge g root t stops = .ok changes ↔ Steady g root t u stops := by
  induction stops generalizing u changes with
  | nil =>
      obtain ⟨rfl, -⟩ : [] = changes ∧ u = v := by simpa [tour, on_pure] using h
      exact iff_of_true rfl trivial
  | cons stop rest ih =>
      obtain ⟨here, later, w, hvisit, htour, rfl⟩ := tour_cons_eq_ok h
      rw [Steady, hvisit, ← ih htour]
      cases stop with
      | directory path =>
          obtain ⟨rfl, -⟩ := visit_directory_eq_ok hvisit
          rw [judge, List.nil_append]
          exact (and_iff_right fun _ _ heq => by simp at heq).symm
      | file node path =>
          obtain ⟨kind, hfile, rfl⟩ := visit_file_eq_ok hvisit
          have hkind := (Visited.of_on hfile).verdict
          have hsame : (∀ n q, Stop.file node path = .file n q →
              g.verdict n q t = g.verdict n q u) ↔ g.verdict node path t = .ok kind := by
            constructor
            · intro hall
              exact (hall node path rfl).trans hkind
            · rintro hok n q heq
              obtain ⟨rfl, rfl⟩ : node = n ∧ path = q := by simpa using heq
              rw [hok, hkind]
          rw [hsame, judge]
          cases g.verdict node path t with
          | error f => simp [bind, Except.bind]
          | ok kind' =>
              cases judge g root t rest <;>
                simp [bind, Except.bind, pure, Except.pure]

/-! ## Files apart from each other -/

/-- The location of a file that a run comes by. -/
def Stop.target? (t : FileTree) : Stop → Option Location
  | .directory _ => none
  | .file _ path => some (t.target path)

/-- The path of a file has no step up. -/
def Stop.IsLevel (t : FileTree) : Stop → Prop
  | .directory _ => True
  | .file _ path => Level (t.origin path).2

instance (t : FileTree) (stop : Stop) : Decidable (stop.IsLevel t) :=
  match stop with
  | .directory _ => inferInstanceAs (Decidable True)
  | .file _ path => inferInstanceAs (Decidable (Level (t.origin path).2))

theorem grown_of_ensureDirectory {r : Except Failure Unit}
    (h : on (ensureDirectory path) t = (r, u)) : Grown t u [] := by
  obtain rfl := congrArg Prod.snd h
  rw [ensureDirectory, on_bind, on_kind?]
  dsimp only
  split
  · exact MakesDirectories.makeAll path t
  · exact .refl t

theorem grown_of_ensureParent {r : Except Failure Unit}
    (h : on (ensureParent path) t = (r, u)) : Grown t u [] := by
  rw [ensureParent] at h
  split at h
  next => exact grown_of_ensureDirectory h
  next =>
    obtain rfl := congrArg Prod.snd h
    exact .refl t

/-- A visit changes nothing but the place of its file. -/
theorem Visited.grown (h : Visited g node path t kind u) (ht : t.Sound)
    (hlevel : Level (t.origin path).2) : Grown t u [t.target path] := by
  cases h with
  | @created v u hnew hparent hwrite =>
      have hgrown := grown_of_ensureParent hparent
      have := hgrown.trans
        ((hgrown.sound ht).grown_of_write (hgrown.origin_eq path ▸ hlevel) hwrite)
      rwa [List.nil_append, hgrown.target_eq] at this
  | modified hread hchanged hwrite => exact ht.grown_of_write hlevel hwrite
  | unchanged hread hsame => exact (Grown.refl t).mono (List.nil_subset _)

theorem verdict_congr (h : ∀ r, u.locate path = .ok r ↔ t.locate path = .ok r) :
    g.verdict node path t = g.verdict node path u := by
  cases ht : t.locate path with
  | ok r =>
      have hu := (h r).2 ht
      rw [verdict, verdict, FileTree.kind?, FileTree.kind?, FileTree.read, FileTree.read, ht, hu]
  | error f =>
      have hnone : ∀ r, t.locate path ≠ .ok r := by
        intro r hr
        simp [ht] at hr
      rw [verdict, verdict, FileTree.kind?_eq_none_iff.2 hnone,
        FileTree.kind?_eq_none_iff.2 fun r hr => hnone r ((h r).1 hr)]
      rfl

/-- A file whose place was not written is judged as before. -/
theorem verdict_of_grown (ht : t.Sound) {files : List Location} (hgrown : Grown t u files)
    (hlevel : Level (t.origin path).2) (hapart : t.target path ∉ files)
    (hok : g.verdict node path u = .ok kind) :
    g.verdict node path t = g.verdict node path u := by
  rcases hgrown.same _ hapart with hsame | ⟨hnone, hdirectory⟩
  · exact verdict_congr (hgrown.locate_congr ht hlevel hsame)
  · have hmissing : t.kind? path = none := by
      refine FileTree.kind?_eq_none_iff.2 fun r hr => ?_
      obtain ⟨-, -, hl, he, -⟩ := (ht.locate_eq_ok_iff hlevel).1 hr
      rw [hl, hnone] at he
      exact absurd he (by simp)
    cases hu : u.locate path with
    | error f =>
        have hmissing' : u.kind? path = none :=
          FileTree.kind?_eq_none_iff.2 fun r hr => by simp [hu] at hr
        rw [verdict, verdict, hmissing, hmissing']
        rfl
    | ok r =>
        -- the place has become a directory, which the run cannot read
        obtain ⟨l, e⟩ := r
        obtain ⟨-, -, hl, he, -⟩ := (hgrown.locate_eq_ok_iff ht hlevel).1 hu
        rw [hl, hdirectory] at he
        obtain rfl := Option.some.inj he
        rw [verdict, FileTree.kind?, hu, FileTree.read_of_locate_directory hu] at hok
        exact absurd hok (by simp)

/-- A run that comes by no place twice, and never goes a step up, finds every
file as it was. -/
theorem steady_of_apart (ht : t.Sound) {stops : List Stop} {files : List Location}
    (hgrown : Grown t u files) (h : on (tour g true root stops) u = (.ok changes, v))
    (hlevel : ∀ stop ∈ stops, stop.IsLevel t)
    (hapart : (files ++ stops.filterMap (Stop.target? t)).Nodup) :
    Steady g root t u stops := by
  induction stops generalizing u files changes with
  | nil => trivial
  | cons stop rest ih =>
      obtain ⟨here, later, w, hvisit, htour, rfl⟩ := tour_cons_eq_ok h
      have hrest : ∀ s ∈ rest, s.IsLevel t :=
        fun s hs => hlevel s (List.mem_cons_of_mem stop hs)
      rw [Steady, hvisit]
      cases stop with
      | directory path =>
          obtain ⟨-, hmade⟩ := visit_directory_eq_ok hvisit
          have hw := hgrown.trans (grown_of_ensureDirectory hmade)
          rw [List.append_nil] at hw
          exact ⟨fun _ _ heq => by simp at heq, ih hw htour hrest hapart⟩
      | file node path =>
          obtain ⟨kind, hfile, rfl⟩ := visit_file_eq_ok hvisit
          have hpath : Level (t.origin path).2 := hlevel _ List.mem_cons_self
          have hwritten : Grown u w [t.target path] := by
            have := (Visited.of_on hfile).grown (hgrown.sound ht) (hgrown.origin_eq path ▸ hpath)
            rwa [hgrown.target_eq] at this
          have hapart : (files ++ [t.target path] ++ rest.filterMap (Stop.target? t)).Nodup := by
            rw [List.append_assoc]
            exact hapart
          have hnew : t.target path ∉ files := by
            intro hmem
            have hdisjoint := (List.nodup_append.1 (List.nodup_append.1 hapart).1).2.2
            exact hdisjoint _ hmem _ List.mem_cons_self rfl
          refine ⟨?_, ih (hgrown.trans hwritten) htour hrest hapart⟩
          intro n q heq
          obtain ⟨rfl, rfl⟩ : node = n ∧ path = q := by simpa using heq
          exact verdict_of_grown ht hgrown hpath hnew (Visited.of_on hfile).verdict

/-! ## Whole runs -/

/-- The path seen from the root of a file tree. -/
def absoluteOn (t : FileTree) (path : Path) : Path :=
  if path.isAbsolute then path else (FileTree.pathOf t.current).join path

theorem on_absolute (path : Path) (t : FileTree) :
    on (absolute path) t = (.ok (absoluteOn t path), t) := by
  rw [absolute, absoluteOn]
  split
  · rfl
  · rfl

/-- The stops of a run on a file tree. -/
def itinerary (g : Generator) (template : Template) (root : Path) (t : FileTree) : List Stop :=
  g.groupStops (absoluteOn t root) template.filePaths

theorem on_walkTemplate (g : Generator) (writing : Bool) (template : Template) (root : Path)
    (t : FileTree) :
    on (g.walkTemplate writing template root) t =
      ((on (tour g writing (absoluteOn t root) (g.itinerary template root t)) t).1.map Report.mk,
        (on (tour g writing (absoluteOn t root) (g.itinerary template root t)) t).2) := by
  rw [walkTemplate_eq_tour, on_bind, on_absolute]
  dsimp only
  rw [on_bind, itinerary]
  rcases on (tour g writing (absoluteOn t root) _) t with ⟨f | changes, u⟩ <;> rfl

theorem on_walkTemplate_eq_ok_iff {writing : Bool} {template : Template} {report : Report} :
    on (g.walkTemplate writing template root) t = (.ok report, u) ↔
      on (tour g writing (absoluteOn t root) (g.itinerary template root t)) t =
        (.ok report.changes, u) := by
  rw [on_walkTemplate]
  rcases on (tour g writing (absoluteOn t root) _) t with ⟨f | changes, v⟩
  · simp [Except.map]
  · obtain ⟨expected⟩ := report
    simp [Except.map]

/-- A plan is the report of the run that writes exactly if the run finds every
file as it was before; so it is if no two files of the template have one place
and no path goes a step up.  A dry run is a plan. -/
theorem plan_eq_run_iff {template : Template} {report : Report} (hwriting : g.dryRun = false)
    (h : on (g.run template root) t = (.ok report, u)) :
    (on (g.plan template root) t = (.ok report, t) ↔
        Steady g (absoluteOn t root) t t (g.itinerary template root t)) ∧
      on (run { g with dryRun := true } template root) t = on (g.plan template root) t ∧
      (t.Sound → (∀ stop ∈ g.itinerary template root t, stop.IsLevel t) →
        ((g.itinerary template root t).filterMap (Stop.target? t)).Nodup →
        on (g.plan template root) t = (.ok report, t)) := by
  rw [run, hwriting] at h
  have htour := on_walkTemplate_eq_ok_iff.1 h
  have hplan : on (g.plan template root) t = (.ok report, t) ↔
      Steady g (absoluteOn t root) t t (g.itinerary template root t) := by
    rw [plan, on_walkTemplate_eq_ok_iff, on_tour_false, Prod.mk.injEq, and_iff_left rfl]
    exact judge_eq_ok_iff htour
  refine ⟨hplan, ?_, ?_⟩
  · rw [run, walkTemplate_dryRun, plan]
    rfl
  · intro ht hlevel hapart
    refine hplan.2 ?_
    exact steady_of_apart ht (.refl t) htour hlevel hapart

theorem plan_of_two_files :
    let g : Generator := { values := .empty }
    let files : List Node := [{ name := "a".toList, code := "x".toList },
      { name := "b".toList, code := "y".toList }]
    let template : Template := { filePaths := [{ path := "d".toList, nodes := files }] }
    let report : Report := ⟨[⟨⟨"/w/d/a".toList⟩, ⟨"d/a".toList⟩, .created⟩,
      ⟨⟨"/w/d/b".toList⟩, ⟨"d/b".toList⟩, .created⟩]⟩
    on (g.plan template ⟨"/w".toList⟩) (.startingAt []) = (.ok report, .startingAt []) := by
  intro g files template report
  have hreport : (on (g.run template ⟨"/w".toList⟩) (.startingAt [])).1 = .ok report := by
    rw [run, on_walkTemplate]
    decide +kernel
  obtain ⟨u, hrun⟩ : ∃ u, on (g.run template ⟨"/w".toList⟩) (.startingAt []) =
      (.ok report, u) := by
    rw [← hreport]
    exact ⟨_, (Prod.eta _).symm⟩
  exact (plan_eq_run_iff rfl hrun).2.2 FileTree.sound_startingAt_root (by decide +kernel)
    (by decide +kernel)

/-- A file that is described twice is created once. -/
theorem plan_counts_file_twice :
    let g : Generator := { values := .empty }
    let file : Node := { name := "a".toList, code := "x".toList }
    let template : Template := { filePaths := [{ path := "d".toList, nodes := [file, file] }] }
    (on (g.run template ⟨"/w".toList⟩) (.startingAt [])).1 =
        .ok ⟨[⟨⟨"/w/d/a".toList⟩, ⟨"d/a".toList⟩, .created⟩,
          ⟨⟨"/w/d/a".toList⟩, ⟨"d/a".toList⟩, .unchanged⟩]⟩ ∧
      (on (g.plan template ⟨"/w".toList⟩) (.startingAt [])).1 =
        .ok ⟨[⟨⟨"/w/d/a".toList⟩, ⟨"d/a".toList⟩, .created⟩,
          ⟨⟨"/w/d/a".toList⟩, ⟨"d/a".toList⟩, .created⟩]⟩ := by
  intro g file template
  rw [run, plan, on_walkTemplate, on_walkTemplate]
  decide +kernel

end Generator

end Scaffold
