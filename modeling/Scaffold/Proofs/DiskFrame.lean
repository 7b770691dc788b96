/-
# What a file tree tells and what changes it

In a sound tree all that stands anywhere stands in a directory.  There a path
without steps up means one location, its target, and what the path tells hangs
on the target alone (`locate_eq_ok_iff`): not on whether the directories around
it were there all the time or have just been made.

Making directories never takes anything away (`Grown`).  A file that is written
takes no directory away and changes nothing but its own place, where its path
leads from then on (`write_eq_ok`).  Both hold of any tree.
-/
import Scaffold.FileTree

namespace Scaffold.FileTree

open Disk (Fault Kind)
open Scaffold.Path (component?)

/-! ## Looking up what was put -/

theorem get?_put_self (t : FileTree) {l : Location} (h : l ≠ []) (e : Entry) :
    (t.put l e).get? l = some e := by
  rw [get?, if_neg (by simp [h])]
  exact Table.lookup_put_self t.entries l e

theorem get?_put_ne (t : FileTree) {l l' : Location} (h : l' ≠ l) (e : Entry) :
    (t.put l e).get? l' = t.get? l' := by
  rw [get?, get?]
  split
  · rfl
  · exact Table.lookup_put_ne e h

/-! ## Sound trees -/

/-- Everything stands in a directory, and so does who looks. -/
structure Sound (t : FileTree) : Prop where
  around : ∀ l name e, t.get? (l ++ [name]) = some e → t.get? l = some .directory
  current : t.get? t.current = some .directory

theorem sound_startingAt_root : (startingAt []).Sound where
  around l name e h := by
    rw [get?, if_neg (by simp)] at h
    exact absurd h (by simp [startingAt, putDirectories])
  current := rfl

theorem Sound.around_append {t : FileTree} (ht : t.Sound) {l more : Location} {e : Entry}
    (h : t.get? (l ++ more) = some e) (hne : more ≠ []) : t.get? l = some .directory := by
  induction more generalizing l with
  | nil => exact absurd rfl hne
  | cons name r ih =>
      cases r with
      | nil => exact ht.around l name e h
      | cons name' r' =>
          rw [List.append_cons] at h
          exact ht.around l name _ (ih h (List.cons_ne_nil name' r'))

theorem Sound.dropLast {t : FileTree} (ht : t.Sound) {l : Location}
    (h : t.get? l = some .directory) : t.get? l.dropLast = some .directory := by
  by_cases hnil : l = []
  · rw [hnil]
    rfl
  · rw [← List.dropLast_concat_getLast hnil] at h
    exact ht.around _ _ _ h

theorem Sound.put {t : FileTree} (ht : t.Sound) {l : Location} {name : Text}
    (hl : t.get? l = some .directory) (hnew : t.get? (l ++ [name]) ≠ some .directory) (e : Entry) :
    (t.put (l ++ [name]) e).Sound where
  around k name' e' h := by
    by_cases hk : k = l ++ [name]
    · -- nothing stands in what was no directory
      have hbelow : k ++ [name'] ≠ l ++ [name] := by
        intro heq
        have := congrArg List.length heq
        rw [hk] at this
        simp at this
      rw [get?_put_ne t hbelow] at h
      exact absurd (ht.around k name' e' h) (hk ▸ hnew)
    · rw [get?_put_ne t hk]
      by_cases hsame : k ++ [name'] = l ++ [name]
      · obtain ⟨rfl, -⟩ := List.append_inj' hsame rfl
        exact hl
      · rw [get?_put_ne t hsame] at h
        exact ht.around k name' e' h
  current := by
    have hne : t.current ≠ l ++ [name] := by
      intro heq
      exact hnew (heq ▸ ht.current)
    exact (get?_put_ne t hne e).trans ht.current

/-! ## Following a path -/

theorem component?_cases (piece : Text) :
    component? piece = none ∨ component? piece = some .up ∨
      component? piece = some (.name piece) := by
  rw [component?]
  split
  · exact .inl rfl
  · split
    · exact .inr (.inl rfl)
    · exact .inr (.inr rfl)

/-- The names among some pieces. -/
def names (ps : List Text) : Location :=
  ps.filter fun piece => component? piece == some (.name piece)

theorem names_append (a b : List Text) : names (a ++ b) = names a ++ names b :=
  List.filter_append ..

theorem names_singleton_of_none {piece : Text} (h : component? piece = none) :
    names [piece] = [] := by
  simp [names, h]

theorem names_singleton_of_name {piece : Text} (h : component? piece = some (.name piece)) :
    names [piece] = [piece] := by
  simp [names, h]

/-- The pieces have no step up. -/
def Level (ps : List Text) : Prop :=
  ∀ piece ∈ ps, component? piece ≠ some .up

instance (ps : List Text) : Decidable (Level ps) :=
  inferInstanceAs (Decidable (∀ piece ∈ ps, component? piece ≠ some .up))

theorem child_eq_ok_iff {t : FileTree} {here l : Location} {name : Text} {e : Entry} :
    t.child here name = .ok (l, e) ↔
      Text.byteSize name ≤ 255 ∧ l = here ++ [name] ∧ t.get? (here ++ [name]) = some e := by
  rw [child]
  split
  next hlong => simp [Nat.not_le.2 hlong]
  next hshort =>
    cases h : t.get? (here ++ [name]) with
    | none => simp
    | some e' =>
        simp only [Except.ok.injEq, Prod.mk.injEq, Nat.not_lt.1 hshort, true_and,
          Option.some.injEq]
        constructor
        · intro h
          exact ⟨h.1.symm, h.2⟩
        · intro h
          exact ⟨h.1.symm, h.2⟩

section Sound

variable {t : FileTree} (ht : t.Sound) {here l : Location}
include ht

theorem Sound.get?_of_follow (hhere : t.get? here = some .directory) {piece : Text} {e : Entry}
    (h : t.follow here piece = .ok (l, e)) : t.get? l = some e := by
  rw [follow] at h
  split at h
  next name _ =>
    obtain ⟨-, rfl, he⟩ := child_eq_ok_iff.1 h
    exact he
  next =>
    obtain ⟨rfl, rfl⟩ : here.dropLast = l ∧ Entry.directory = e := by simpa using h
    exact ht.dropLast hhere
  next =>
    obtain ⟨rfl, rfl⟩ : here = l ∧ Entry.directory = e := by simpa using h
    exact hhere

omit ht in
theorem follow_eq_ok_iff (hhere : t.get? here = some .directory) {piece : Text}
    (hlevel : component? piece ≠ some .up) {e : Entry} :
    t.follow here piece = .ok (l, e) ↔
      (∀ name ∈ names [piece], Text.byteSize name ≤ 255) ∧ l = here ++ names [piece] ∧
        t.get? l = some e := by
  rcases component?_cases piece with h | h | h
  · rw [follow, h, names_singleton_of_none h, List.append_nil]
    simp only [Except.ok.injEq, Prod.mk.injEq, List.not_mem_nil, false_imp_iff, implies_true,
      true_and]
    constructor
    · rintro ⟨rfl, rfl⟩
      exact ⟨rfl, hhere⟩
    · rintro ⟨rfl, he⟩
      exact ⟨rfl, Option.some.inj (hhere.symm.trans he)⟩
  · exact absurd h hlevel
  · rw [follow, h, names_singleton_of_name h]
    simp only [child_eq_ok_iff, List.mem_singleton, forall_eq]
    exact and_congr_right fun _ => and_congr_right fun heq => by rw [heq]

omit ht in
theorem enter_cons_eq_ok_iff {piece : Text} {r : List Text} :
    t.enter here (piece :: r) = .ok l ↔
      ∃ next, t.follow here piece = .ok (next, .directory) ∧ t.enter next r = .ok l := by
  rw [enter]
  cases t.follow here piece with
  | error f => simp [bind, Except.bind]
  | ok step =>
      obtain ⟨next, e⟩ := step
      cases e with
      | directory => simp [bind, Except.bind]
      | file content => simp [bind, Except.bind]

theorem Sound.get?_of_enter (hhere : t.get? here = some .directory) {ps : List Text}
    (h : t.enter here ps = .ok l) : t.get? l = some .directory := by
  induction ps generalizing here with
  | nil =>
      obtain rfl : here = l := by simpa [enter] using h
      exact hhere
  | cons piece r ih =>
      obtain ⟨next, hfollow, hrest⟩ := enter_cons_eq_ok_iff.1 h
      exact ih (ht.get?_of_follow hhere hfollow) hrest

/-- Where level pieces lead. -/
theorem Sound.enter_eq_ok_iff (hhere : t.get? here = some .directory) {ps : List Text}
    (hlevel : Level ps) :
    t.enter here ps = .ok l ↔
      (∀ name ∈ names ps, Text.byteSize name ≤ 255) ∧ l = here ++ names ps ∧
        t.get? l = some .directory := by
  induction ps generalizing here with
  | nil =>
      simp only [enter, Except.ok.injEq, names, List.filter_nil, List.append_nil, List.not_mem_nil,
        false_imp_iff, implies_true, true_and]
      constructor
      · intro h
        exact ⟨h.symm, h ▸ hhere⟩
      · intro h
        exact h.1.symm
  | cons piece r ih =>
      have hpiece := hlevel piece List.mem_cons_self
      have hrest : Level r := by
        intro q hq
        exact hlevel q (List.mem_cons_of_mem _ hq)
      have hnames : names (piece :: r) = names [piece] ++ names r := names_append [piece] r
      rw [enter_cons_eq_ok_iff]
      constructor
      · rintro ⟨next, hfollow, henter⟩
        obtain ⟨hshort, rfl, hnext⟩ := (follow_eq_ok_iff hhere hpiece).1 hfollow
        obtain ⟨hshort', rfl, hl⟩ := (ih hnext hrest).1 henter
        refine ⟨?_, by rw [hnames, List.append_assoc], hl⟩
        intro name hname
        rw [hnames, List.mem_append] at hname
        exact hname.elim (hshort name) (hshort' name)
      · rintro ⟨hshort, heq, hl⟩
        rw [hnames, ← List.append_assoc] at heq
        have hnext : t.get? (here ++ names [piece]) = some .directory := by
          by_cases hnil : names r = []
          · rwa [heq, hnil, List.append_nil] at hl
          · exact ht.around_append (heq ▸ hl) hnil
        rw [hnames] at hshort
        refine ⟨_, (follow_eq_ok_iff hhere hpiece).2 ⟨?_, rfl, hnext⟩,
          (ih hnext hrest).2 ⟨?_, heq, hl⟩⟩
        · intro name hname
          exact hshort name (List.mem_append_left _ hname)
        · intro name hname
          exact hshort name (List.mem_append_right _ hname)

end Sound

/-! ## Targets -/

/-- The location that a path without steps up means. -/
def target (t : FileTree) (p : Path) : Location :=
  (t.origin p).1 ++ names (t.origin p).2

theorem Sound.get?_origin {t : FileTree} (ht : t.Sound) (p : Path) :
    t.get? (t.origin p).1 = some .directory := by
  rw [origin]
  split
  · rfl
  · exact ht.current

theorem origin_pieces_ne_nil (t : FileTree) (p : Path) : (t.origin p).2 ≠ [] := by
  rw [origin]
  split <;> exact Path.pieces_ne_nil _

theorem names_dropLast_append (ps : List Text) :
    names ps = names ps.dropLast ++ names [ps.getLast?.getD []] := by
  by_cases hnil : ps = []
  · subst hnil
    rfl
  · rw [← names_append, List.getLast?_eq_some_getLast hnil, Option.getD_some,
      List.dropLast_concat_getLast]

theorem locate_eq_ok_iff {t : FileTree} {p : Path} {l : Location} {e : Entry} :
    t.locate p = .ok (l, e) ↔
      checkText p = .ok () ∧ ∃ here, t.enter (t.origin p).1 (t.origin p).2.dropLast = .ok here ∧
        t.follow here ((t.origin p).2.getLast?.getD []) = .ok (l, e) := by
  rw [locate]
  cases checkText p with
  | error f => simp [bind, Except.bind]
  | ok u =>
      cases h : t.enter (t.origin p).1 (t.origin p).2.dropLast with
      | error f => simp [bind, Except.bind, h]
      | ok here => simp [bind, Except.bind, h]

/-- What stands at the end of a level path. -/
theorem Sound.locate_eq_ok_iff {t : FileTree} (ht : t.Sound) {p : Path}
    (hlevel : Level (t.origin p).2) {l : Location} {e : Entry} :
    t.locate p = .ok (l, e) ↔
      checkText p = .ok () ∧ (∀ name ∈ names (t.origin p).2, Text.byteSize name ≤ 255) ∧
        l = t.target p ∧ t.get? l = some e ∧
          (component? ((t.origin p).2.getLast?.getD []) = none → e = .directory) := by
  have hstart := ht.get?_origin p
  have hpieces := origin_pieces_ne_nil t p
  have hnames := names_dropLast_append (t.origin p).2
  have hfront : Level (t.origin p).2.dropLast := by
    intro q hq
    exact hlevel q (List.dropLast_subset _ hq)
  have hlast : component? ((t.origin p).2.getLast?.getD []) ≠ some .up := by
    rw [List.getLast?_eq_some_getLast hpieces]
    exact hlevel _ (List.getLast_mem hpieces)
  rw [FileTree.locate_eq_ok_iff, target]
  generalize (t.origin p).2.getLast?.getD [] = last at hnames hlast ⊢
  rw [hnames]
  refine and_congr_right fun _ => ⟨?_, ?_⟩
  · rintro ⟨here, henter, hfollow⟩
    obtain ⟨hshort, rfl, hhere⟩ := (ht.enter_eq_ok_iff hstart hfront).1 henter
    obtain ⟨hshort', hl, he⟩ := (follow_eq_ok_iff hhere hlast).1 hfollow
    refine ⟨?_, by rw [hl, List.append_assoc], he, ?_⟩
    · intro name hname
      exact (List.mem_append.1 hname).elim (hshort name) (hshort' name)
    · intro hnone
      rw [hl, names_singleton_of_none hnone, List.append_nil, hhere] at he
      exact (Option.some.inj he).symm
  · rintro ⟨hshort, hl, he, hdirectory⟩
    rw [← List.append_assoc] at hl
    have hhere : t.get? ((t.origin p).1 ++ names (t.origin p).2.dropLast) = some .directory := by
      rcases component?_cases last with h | h | h
      · rw [names_singleton_of_none h, List.append_nil] at hl
        rw [← hl, he, hdirectory h]
      · exact absurd h hlast
      · rw [names_singleton_of_name h] at hl
        exact ht.around _ _ e (hl ▸ he)
    refine ⟨_, (ht.enter_eq_ok_iff hstart hfront).2 ⟨?_, rfl, hhere⟩,
      (follow_eq_ok_iff hhere hlast).2 ⟨?_, hl, he⟩⟩
    · intro name hname
      exact hshort name (List.mem_append_left _ hname)
    · intro name hname
      exact hshort name (List.mem_append_right _ hname)

theorem kind?_eq_none_iff {t : FileTree} {p : Path} :
    t.kind? p = none ↔ ∀ r, t.locate p ≠ .ok r := by
  rw [FileTree.kind?]
  cases t.locate p with
  | error f => simp
  | ok r =>
      obtain ⟨l, e⟩ := r
      cases e <;> simp

theorem read_of_locate_directory {t : FileTree} {p : Path} {l : Location}
    (h : t.locate p = .ok (l, .directory)) : t.read p = .error .isDirectory := by
  rw [FileTree.read, h]
  rfl

theorem exists_locate_of_read {t : FileTree} {p : Path} {text : Text} (h : t.read p = .ok text) :
    ∃ l, t.locate p = .ok (l, .file (.text text)) := by
  rw [FileTree.read] at h
  cases hlocate : t.locate p with
  | error f => simp [bind, Except.bind, hlocate] at h
  | ok r =>
      obtain ⟨l, e⟩ := r
      simp only [bind, Except.bind, hlocate] at h
      split at h
      next => exact absurd h (by simp)
      next => exact absurd h (by simp)
      next l' text' heq =>
        obtain ⟨rfl, rfl⟩ := Prod.mk.inj heq
        obtain rfl := Except.ok.inj h
        exact ⟨l, rfl⟩

theorem kind?_of_read {t : FileTree} {p : Path} {text : Text} (h : t.read p = .ok text) :
    t.kind? p = some .file := by
  obtain ⟨l, hlocate⟩ := exists_locate_of_read h
  rw [FileTree.kind?, hlocate]

/-! ## Putting things -/

/-- How a place is found: the pieces of the path, without empty ones at the end,
lead to the directory around it. -/
theorem place_eq_ok {t : FileTree} {p : Path} {place : Place} (h : t.place p = .ok place) :
    checkText p = .ok () ∧ ∃ solid blanks, (t.origin p).2 = solid ++ blanks ∧
      t.enter (t.origin p).1 solid.dropLast = .ok place.around ∧
      place.piece = solid.getLast?.getD [] ∧ (place.slash = false → blanks = []) := by
  rw [FileTree.place] at h
  have hpieces : (t.origin p).2 = ((t.origin p).2.reverse.dropWhile List.isEmpty).reverse ++
      ((t.origin p).2.reverse.takeWhile List.isEmpty).reverse := by
    rw [← List.reverse_append, List.takeWhile_append_dropWhile, List.reverse_reverse]
  cases hcheck : checkText p with
  | error f => simp [bind, Except.bind, hcheck] at h
  | ok u =>
      simp only [bind, Except.bind, hcheck] at h
      split at h
      next => exact absurd h (by simp)
      next here henter =>
        obtain rfl := Except.ok.inj h
        refine ⟨rfl, _, _, hpieces, henter, rfl, ?_⟩
        intro hslash
        have hlength := congrArg List.length hpieces
        rw [List.length_append] at hlength
        have hshort := of_decide_eq_false hslash
        exact List.length_eq_zero_iff.1 (by omega)

theorem Sound.around_of_place {t : FileTree} (ht : t.Sound) {p : Path} {place : Place}
    (h : t.place p = .ok place) : t.get? place.around = some .directory := by
  obtain ⟨-, solid, blanks, -, henter, -, -⟩ := place_eq_ok h
  exact ht.get?_of_enter (ht.get?_origin p) henter

/-- Something new or another file stands in a directory. -/
structure PutAt (t u : FileTree) (l : Location) (e : Entry) : Prop where
  eq : u = t.put l e
  free : t.get? l ≠ some .directory
  sound : t.Sound → u.Sound
  nonroot : l ≠ []

theorem putAt {t : FileTree} {l : Location} {name : Text}
    (hl : t.Sound → t.get? l = some .directory) (hnew : t.get? (l ++ [name]) ≠ some .directory)
    (e : Entry) : PutAt t (t.put (l ++ [name]) e) (l ++ [name]) e :=
  ⟨rfl, hnew, fun ht => ht.put (hl ht) hnew e, by simp⟩

theorem PutAt.same {t u : FileTree} {l l' : Location} {e : Entry} (h : PutAt t u l e)
    (hne : l' ≠ l) : u.get? l' = t.get? l' := by
  rw [h.eq, get?_put_ne t hne]

/-- Where directories led, they lead still. -/
theorem PutAt.enter {t u : FileTree} {l here next : Location} {e : Entry} (h : PutAt t u l e)
    {ps : List Text} (henter : t.enter here ps = .ok next) : u.enter here ps = .ok next := by
  induction ps generalizing here with
  | nil => exact henter
  | cons piece r ih =>
      obtain ⟨step, hfollow, hrest⟩ := enter_cons_eq_ok_iff.1 henter
      refine enter_cons_eq_ok_iff.2 ⟨step, ?_, ih hrest⟩
      rw [follow] at hfollow ⊢
      split at hfollow
      next name _ =>
        obtain ⟨hshort, rfl, hdirectory⟩ := child_eq_ok_iff.1 hfollow
        have hne : here ++ [name] ≠ l := by
          rintro rfl
          exact h.free hdirectory
        exact child_eq_ok_iff.2 ⟨hshort, rfl, (h.same hne).trans hdirectory⟩
      next => exact hfollow
      next => exact hfollow

/-- What has no such name in a directory. -/
theorem child_eq_missing {t : FileTree} {here : Location} {name : Text}
    (h : t.child here name = .error .missing) :
    Text.byteSize name ≤ 255 ∧ t.get? (here ++ [name]) = none := by
  rw [child] at h
  split at h
  · exact absurd h (by simp)
  next hshort =>
    split at h
    next hnone => exact ⟨Nat.not_lt.1 hshort, hnone⟩
    next => exact absurd h (by simp)

/-- A directory is only made where nothing stands. -/
theorem makeDirectory_eq_ok {t u : FileTree} {p : Path} (h : t.makeDirectory p = .ok u) :
    ∃ l, PutAt t u l .directory ∧ t.get? l = none := by
  rw [makeDirectory] at h
  cases hplace : t.place p with
  | error f => simp [bind, Except.bind, hplace] at h
  | ok place =>
      simp only [bind, Except.bind, hplace] at h
      split at h
      next name hname =>
        split at h
        next => exact absurd h (by simp)
        next hmissing =>
          obtain rfl := Except.ok.inj h
          obtain ⟨-, hnone⟩ := child_eq_missing hmissing
          exact ⟨_, putAt (fun ht => ht.around_of_place hplace) (by simp [hnone]) .directory, hnone⟩
        next => exact absurd h (by simp)
      next => exact absurd h (by simp)

/-- A file is written under the last name of its path, if that is not too long
and no directory has it. -/
theorem exists_name_of_write {t u : FileTree} {p : Path} {content : FileContent}
    (h : t.write p content = .ok u) :
    ∃ here name, checkText p = .ok () ∧
      t.enter (t.origin p).1 (t.origin p).2.dropLast = .ok here ∧
      component? ((t.origin p).2.getLast?.getD []) = some (.name name) ∧
      Text.byteSize name ≤ 255 ∧ t.get? (here ++ [name]) ≠ some .directory ∧
      u = t.put (here ++ [name]) (.file content) := by
  rw [FileTree.write] at h
  cases hplace : t.place p with
  | error f => simp [bind, Except.bind, hplace] at h
  | ok place =>
      simp only [bind, Except.bind, hplace] at h
      obtain ⟨hcheck, solid, blanks, hpieces, henter, hpiece, hslash⟩ := place_eq_ok hplace
      split at h
      next name hname =>
        split at h
        · exact absurd h (by simp)
        next hnoSlash =>
          rw [hslash (Bool.not_eq_true _ ▸ hnoSlash), List.append_nil] at hpieces
          rw [← hpieces] at henter hpiece
          rw [hpiece] at hname
          split at h
          next => exact absurd h (by simp)
          next k old hchild =>
            obtain ⟨hshort, -, hold⟩ := child_eq_ok_iff.1 hchild
            exact ⟨_, name, hcheck, henter, hname, hshort, by simp [hold],
              (Except.ok.inj h).symm⟩
          next hmissing =>
            obtain ⟨hshort, hnone⟩ := child_eq_missing hmissing
            exact ⟨_, name, hcheck, henter, hname, hshort, by simp [hnone],
              (Except.ok.inj h).symm⟩
          next => exact absurd h (by simp)
      next => exact absurd h (by simp)

/-- A file is only written where no directory stands, and where a file stood
that the path led to.  The path leads to it afterwards. -/
theorem write_eq_ok {t u : FileTree} {p : Path} {content : FileContent}
    (h : t.write p content = .ok u) :
    ∃ l, PutAt t u l (.file content) ∧ u.locate p = .ok (l, .file content) ∧
      ∀ k old, t.locate p = .ok (k, .file old) → k = l := by
  obtain ⟨here, name, hcheck, henter, hname, hshort, hfree, rfl⟩ := exists_name_of_write h
  have haround : t.Sound → t.get? here = some .directory :=
    fun ht => ht.get?_of_enter (ht.get?_origin p) henter
  have hput := putAt haround hfree (.file content)
  refine ⟨_, hput, ?_, ?_⟩
  · refine locate_eq_ok_iff.2 ⟨hcheck, here, hput.enter henter, ?_⟩
    show follow _ here ((t.origin p).2.getLast?.getD []) = _
    rw [follow, hname]
    exact child_eq_ok_iff.2 ⟨hshort, rfl, get?_put_self t hput.nonroot _⟩
  · intro k old hold
    obtain ⟨-, here', henter', hfollow⟩ := locate_eq_ok_iff.1 hold
    obtain rfl : here = here' := Except.ok.inj (henter.symm.trans henter')
    rw [follow, hname] at hfollow
    exact (child_eq_ok_iff.1 hfollow).2.1

/-! ## Trees that grow -/

/-- What came between two trees: directories where nothing stood, and files at
some locations. -/
structure Grown (t u : FileTree) (files : List Location) : Prop where
  sound : t.Sound → u.Sound
  current : u.current = t.current
  same : ∀ l, l ∉ files → u.get? l = t.get? l ∨ (t.get? l = none ∧ u.get? l = some .directory)

theorem Grown.refl (t : FileTree) : Grown t t [] :=
  ⟨id, rfl, fun _ _ => .inl rfl⟩

theorem Grown.mono {t u : FileTree} {a b : List Location} (h : Grown t u a) (hab : a ⊆ b) :
    Grown t u b :=
  ⟨h.sound, h.current, fun l hl => h.same l fun hmem => hl (hab hmem)⟩

theorem Grown.trans {t u v : FileTree} {a b : List Location} (h : Grown t u a)
    (h' : Grown u v b) : Grown t v (a ++ b) where
  sound ht := h'.sound (h.sound ht)
  current := h'.current.trans h.current
  same l hl := by
    rw [List.mem_append, not_or] at hl
    rcases h.same l hl.1 with heq | ⟨hnone, hdirectory⟩
    · rw [← heq]
      exact h'.same l hl.2
    · refine .inr ⟨hnone, ?_⟩
      rcases h'.same l hl.2 with heq | ⟨hgone, -⟩
      · rw [heq, hdirectory]
      · exact absurd (hgone.symm.trans hdirectory) (by simp)

theorem PutAt.grown {t u : FileTree} {l : Location} {e : Entry} (h : PutAt t u l e) :
    Grown t u [l] := by
  refine ⟨h.sound, by rw [h.eq]; rfl, ?_⟩
  intro l' hl'
  exact .inl (h.same (List.ne_of_not_mem_cons hl'))

theorem grown_of_makeDirectory {t u : FileTree} {p : Path} (h : t.makeDirectory p = .ok u) :
    Grown t u [] := by
  obtain ⟨l, hput, hnone⟩ := makeDirectory_eq_ok h
  refine ⟨hput.sound, hput.grown.current, ?_⟩
  intro l' _
  by_cases hl : l' = l
  · exact .inr ⟨hl ▸ hnone, by rw [hl, hput.eq, get?_put_self t hput.nonroot]⟩
  · exact .inl (hput.same hl)

section Grown

variable {t u : FileTree} {files : List Location} (h : Grown t u files)
include h

theorem Grown.origin_eq (p : Path) : u.origin p = t.origin p := by
  rw [origin, origin, h.current]

theorem Grown.target_eq (p : Path) : u.target p = t.target p := by
  rw [target, target, h.origin_eq]

/-- A level path means the same location in a tree that has grown. -/
theorem Grown.locate_eq_ok_iff (ht : t.Sound) {p : Path} (hlevel : Level (t.origin p).2)
    {l : Location} {e : Entry} :
    u.locate p = .ok (l, e) ↔
      checkText p = .ok () ∧ (∀ name ∈ names (t.origin p).2, Text.byteSize name ≤ 255) ∧
        l = t.target p ∧ u.get? l = some e ∧
          (component? ((t.origin p).2.getLast?.getD []) = none → e = .directory) := by
  have horigin := h.origin_eq p
  rw [(h.sound ht).locate_eq_ok_iff (horigin ▸ hlevel), horigin, h.target_eq]

/-- Two trees with the same at the target of a path tell the same about it. -/
theorem Grown.locate_congr (ht : t.Sound) {p : Path} (hlevel : Level (t.origin p).2)
    (hsame : u.get? (t.target p) = t.get? (t.target p)) (r : Location × Entry) :
    u.locate p = .ok r ↔ t.locate p = .ok r := by
  obtain ⟨l, e⟩ := r
  rw [h.locate_eq_ok_iff ht hlevel, ht.locate_eq_ok_iff hlevel]
  refine and_congr_right fun _ => and_congr_right fun _ => and_congr_right fun hl => ?_
  rw [hl, hsame]

end Grown

theorem Sound.grown_of_write {t u : FileTree} (ht : t.Sound) {p : Path} {content : FileContent}
    (hlevel : Level (t.origin p).2) (h : t.write p content = .ok u) : Grown t u [t.target p] := by
  obtain ⟨l, hput, hlocate, -⟩ := write_eq_ok h
  obtain ⟨-, -, rfl, -, -⟩ := (hput.grown.locate_eq_ok_iff ht hlevel).1 hlocate
  exact hput.grown

/-! ## Steps that make directories -/

/-- A step that does nothing but make directories. -/
def MakesDirectories {α : Type} (step : StateM FileTree α) : Prop :=
  ∀ t : FileTree, Grown t (step t).2 []

namespace MakesDirectories

theorem pure {α : Type} (a : α) : MakesDirectories (Pure.pure a) :=
  fun t => .refl t

theorem bind {α β : Type} {step : StateM FileTree α} {next : α → StateM FileTree β}
    (h : MakesDirectories step) (h' : ∀ a, MakesDirectories (next a)) :
    MakesDirectories (step >>= next) :=
  fun t => (h t).trans (h' (step t).1 (step t).2)

theorem kind? (p : Path) : MakesDirectories (Disk.kind? p) :=
  fun t => .refl t

theorem makeDirectory (p : Path) : MakesDirectories (Disk.makeDirectory p) := by
  intro t
  change Grown t (update (fun t => t.makeDirectory p) t).2 []
  rw [update]
  split
  next u hu => exact grown_of_makeDirectory hu
  next => exact .refl t

theorem makeFirst (ps : List Path) : MakesDirectories (Disk.makeFirst ps) := by
  induction ps with
  | nil => exact pure _
  | cons p r ih =>
      refine (makeDirectory p).bind ?_
      intro made
      split
      · exact pure _
      · exact ih.bind fun _ => pure _
      · refine (kind? p).bind ?_
        intro found
        split <;> exact pure _
      · exact pure _

theorem makeEach (ps : List Path) : MakesDirectories (Disk.makeEach ps) := by
  induction ps with
  | nil => exact pure _
  | cons p r ih =>
      refine (makeDirectory p).bind ?_
      intro made
      split
      · exact ih
      · refine (kind? p).bind ?_
        intro found
        split
        · exact ih
        · exact pure _
      · exact pure _

theorem makeAll (p : Path) : MakesDirectories (Disk.makeAll p) := by
  refine (makeFirst _).bind ?_
  intro first
  split
  · exact pure _
  · exact makeEach _

end MakesDirectories

end Scaffold.FileTree
