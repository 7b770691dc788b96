/-
# The forest of some paths

Paths that are drawn share the names that they begin with in common.  What forest that
makes is told by what stands side by side and what stands below:

    side by side    the names that the sequences begin with, each of them once and in the
                    order in which they first come up
    below a name    the forest of what stands behind that name

    a x             a
    b               ├── x
    a y z           └── y
    a x                 └── z
                    b

A sequence more keeps it so, be it that it goes down a branch there is or that it begins a
new one (`IsPrefixTree.grow`), and one that came before changes nothing
(`IsPrefixTree.again`).  From this follows at each place of the forest which names lead
there and in which order the branches stand (`ofPaths_is_prefix_tree`).
-/
import Mathlib.Data.List.Infix
import Scaffold.Outline

namespace Scaffold.Outline

/-! ## The first of each kind -/

section Firsts

variable {α β : Type} [BEq β] [LawfulBEq β]

theorem eraseDups_concat_of_mem {l : List β} {x : β} (h : x ∈ l) :
    (l ++ [x]).eraseDups = l.eraseDups := by
  rw [List.eraseDups_append]
  simp [List.removeAll, h]

theorem eraseDups_concat_of_not_mem {l : List β} {x : β} (h : x ∉ l) :
    (l ++ [x]).eraseDups = l.eraseDups ++ [x] := by
  rw [List.eraseDups_append]
  simp [List.removeAll, h, List.eraseDups_cons]

theorem findIdx_lt_iff {f : α → Option β} {l : List α} {x : β} :
    l.findIdx (fun a => f a == some x) < l.length ↔ x ∈ l.filterMap f := by
  rw [List.findIdx_lt_length, List.mem_filterMap]
  simp only [beq_iff_eq]

/-- The values of a list, each of them once, stand in the order in which they first come
up. -/
theorem pairwise_eraseDups_filterMap (f : α → Option β) (l : List α) :
    (l.filterMap f).eraseDups.Pairwise fun x y =>
      l.findIdx (fun a => f a == some x) < l.findIdx (fun a => f a == some y) := by
  induction l using List.reverseRecOn with
  | nil => exact List.Pairwise.nil
  | append_singleton l a ih =>
      have hkept : ∀ x ∈ (l.filterMap f).eraseDups,
          (l ++ [a]).findIdx (fun a => f a == some x) = l.findIdx (fun a => f a == some x) := by
        intro x hx
        rw [List.findIdx_append, if_pos (findIdx_lt_iff.2 (List.mem_eraseDups.1 hx))]
      have hold : (l.filterMap f).eraseDups.Pairwise fun x y =>
          (l ++ [a]).findIdx (fun a => f a == some x) <
            (l ++ [a]).findIdx (fun a => f a == some y) := by
        refine ih.imp_of_mem ?_
        intro x y hx hy hlt
        rwa [hkept x hx, hkept y hy]
      rw [List.filterMap_append]
      cases hy : f a with
      | none => simpa [hy] using hold
      | some y =>
          have hsingle : [a].filterMap f = [y] := by simp [hy]
          rw [hsingle]
          by_cases hmem : y ∈ l.filterMap f
          · rwa [eraseDups_concat_of_mem hmem]
          · rw [eraseDups_concat_of_not_mem hmem, List.pairwise_append]
            refine ⟨hold, List.pairwise_singleton _ y, ?_⟩
            intro x hx z hz
            rw [List.mem_singleton.1 hz, hkept x hx, List.findIdx_append,
              if_neg (mt findIdx_lt_iff.1 hmem)]
            exact Nat.lt_add_left _ (findIdx_lt_iff.2 (List.mem_eraseDups.1 hx))

theorem nodup_eraseDups_filterMap (f : α → Option β) (l : List α) :
    (l.filterMap f).eraseDups.Nodup := by
  refine (pairwise_eraseDups_filterMap f l).imp ?_
  rintro x _ hlt rfl
  exact Nat.lt_irrefl _ hlt

end Firsts

/-! ## Sequences of names -/

/-- The names that the sequences begin with. -/
def heads (nss : List (List Text)) : List Text :=
  nss.filterMap List.head?

/-- What stands behind `q` in the sequences that begin so. -/
def behind (q : List Text) (nss : List (List Text)) : List (List Text) :=
  nss.filterMap fun ns => ns.dropPrefix? q

section Sequences

variable {name : Text} {q r ns : List Text} {nss : List (List Text)}

theorem dropPrefix?_eq_some_iff : ns.dropPrefix? q = some r ↔ ns = q ++ r := by
  rw [List.dropPrefix?_eq_some_iff]
  simp

theorem mem_heads : name ∈ heads nss ↔ ∃ r, name :: r ∈ nss := by
  simp only [heads, List.mem_filterMap, List.head?_eq_some_iff]
  constructor
  · rintro ⟨ns, hmem, r, rfl⟩
    exact ⟨r, hmem⟩
  · rintro ⟨r, hmem⟩
    exact ⟨name :: r, hmem, r, rfl⟩

theorem mem_behind : r ∈ behind q nss ↔ q ++ r ∈ nss := by
  simp only [behind, List.mem_filterMap, dropPrefix?_eq_some_iff, exists_eq_right]

theorem behind_nil (nss : List (List Text)) : behind [] nss = nss := by
  have hall : ∀ ns : List Text, ns.dropPrefix? [] = some ns :=
    fun ns => dropPrefix?_eq_some_iff.2 rfl
  simp [behind, hall]

theorem behind_append (p q : List Text) (nss : List (List Text)) :
    behind (p ++ q) nss = behind q (behind p nss) := by
  rw [behind, behind, behind, List.filterMap_filterMap]
  congr 1
  funext ns
  ext r
  simp only [Option.bind_eq_some_iff, dropPrefix?_eq_some_iff]
  constructor
  · rintro rfl
    exact ⟨q ++ r, List.append_assoc p q r, rfl⟩
  · rintro ⟨_, rfl, rfl⟩
    exact (List.append_assoc p q r).symm

/-! ### One sequence more -/

theorem heads_concat_nil (nss : List (List Text)) : heads (nss ++ [[]]) = heads nss := by
  simp [heads]

theorem heads_concat_cons (nss : List (List Text)) (name : Text) (r : List Text) :
    heads (nss ++ [name :: r]) = heads nss ++ [name] := by
  simp [heads]

theorem behind_concat (nss : List (List Text)) (q ns : List Text) :
    behind q (nss ++ [ns]) = behind q nss ++ (ns.dropPrefix? q).toList := by
  cases h : ns.dropPrefix? q <;> simp [behind, h]

theorem behind_concat_self (nss : List (List Text)) (name : Text) (r : List Text) :
    behind [name] (nss ++ [name :: r]) = behind [name] nss ++ [r] := by
  rw [behind_concat, dropPrefix?_eq_some_iff.2 (rfl : name :: r = [name] ++ r)]
  rfl

/-- A sequence that does not begin with a name leaves what stands behind it. -/
theorem behind_concat_of_head?_ne (nss : List (List Text)) (h : ns.head? ≠ some name) :
    behind [name] (nss ++ [ns]) = behind [name] nss := by
  have hnone : ns.dropPrefix? [name] = none := by
    rw [Option.eq_none_iff_forall_ne_some]
    intro r hr
    rw [dropPrefix?_eq_some_iff] at hr
    subst hr
    exact h rfl
  rw [behind_concat, hnone]
  exact List.append_nil _

theorem behind_eq_nil_of_not_mem_heads (h : name ∉ heads nss) : behind [name] nss = [] := by
  refine List.eq_nil_iff_forall_not_mem.2 ?_
  intro r hr
  exact h (mem_heads.2 ⟨r, mem_behind.1 hr⟩)

end Sequences

/-! ## The forest of some sequences -/

/-- A forest that has the branches of some sequences of names and no others, in the order
in which they first come up. -/
inductive IsPrefixTree : List (List Text) → List Branch → Prop
  | mk {nss : List (List Text)} {forest : List Branch}
      (names_eq : forest.map Branch.name = (heads nss).eraseDups)
      (children : ∀ b ∈ forest, IsPrefixTree (behind [b.name] nss) b.children) :
      IsPrefixTree nss forest

namespace IsPrefixTree

variable {nss : List (List Text)} {ns : List Text} {forest : List Branch} {name : Text}

theorem empty : IsPrefixTree [] [] :=
  .mk rfl (by simp)

theorem map_name (h : IsPrefixTree nss forest) :
    forest.map Branch.name = (heads nss).eraseDups := by
  cases h with
  | mk names_eq _ => exact names_eq

theorem of_mem (h : IsPrefixTree nss forest) {b : Branch} (hb : b ∈ forest) :
    IsPrefixTree (behind [b.name] nss) b.children := by
  cases h with
  | mk _ children => exact children b hb

theorem nodup (h : IsPrefixTree nss forest) : (forest.map Branch.name).Nodup := by
  rw [h.map_name]
  exact nodup_eraseDups_filterMap List.head? nss

theorem mem_names_iff (h : IsPrefixTree nss forest) :
    (∃ b ∈ forest, b.name = name) ↔ ∃ r, name :: r ∈ nss := by
  rw [← List.mem_map, h.map_name, List.mem_eraseDups, mem_heads]

end IsPrefixTree

/-! ### A change below a name -/

section Below

variable {name : Text} {change : List Branch → List Branch} {forest : List Branch} {b : Branch}

theorem map_name_below_of_mem (h : name ∈ forest.map Branch.name) :
    (below name change forest).map Branch.name = forest.map Branch.name := by
  induction forest with
  | nil => simp at h
  | cons c r ih =>
      by_cases hname : c.name = name
      · rw [below, if_pos (beq_iff_eq.2 hname), List.map_cons, List.map_cons, hname]
        rfl
      · have hrest : name ∈ r.map Branch.name := by
          simpa [Ne.symm hname] using h
        simp [below, hname, ih hrest]

/-- A new name becomes the last branch, and the branches before it stay as they are. -/
theorem below_of_not_mem (h : name ∉ forest.map Branch.name) :
    below name change forest = forest ++ [.mk name (change [])] := by
  induction forest with
  | nil => rfl
  | cons c r ih =>
      rw [List.map_cons, List.mem_cons, not_or] at h
      obtain ⟨hname, hrest⟩ := h
      simp [below, Ne.symm hname, ih hrest]

/-- Of branches with names of their own only the named one has something else below it. -/
theorem mem_below_of_mem (hnodup : (forest.map Branch.name).Nodup)
    (hname : name ∈ forest.map Branch.name) (hb : b ∈ below name change forest) :
    b ∈ forest ∧ b.name ≠ name ∨
      ∃ c ∈ forest, c.name = name ∧ b = .mk name (change c.children) := by
  induction forest with
  | nil => simp at hname
  | cons c r ih =>
      rw [List.map_cons, List.nodup_cons] at hnodup
      obtain ⟨hfresh, hnodup⟩ := hnodup
      by_cases hc : c.name = name
      · simp only [below, hc, beq_self_eq_true, if_true, List.mem_cons] at hb
        rcases hb with rfl | hb
        · exact .inr ⟨c, List.mem_cons_self, hc, rfl⟩
        · refine .inl ⟨List.mem_cons_of_mem c hb, ?_⟩
          intro hsame
          exact hfresh (List.mem_map.2 ⟨b, hb, hsame.trans hc.symm⟩)
      · simp only [below, beq_iff_eq, hc, if_false, List.mem_cons] at hb
        rcases hb with rfl | hb
        · exact .inl ⟨List.mem_cons_self, hc⟩
        · have hrest : name ∈ r.map Branch.name := by
            simpa [Ne.symm hc] using hname
          rcases ih hnodup hrest hb with ⟨hmem, hne⟩ | ⟨d, hmem, hd⟩
          · exact .inl ⟨List.mem_cons_of_mem c hmem, hne⟩
          · exact .inr ⟨d, List.mem_cons_of_mem c hmem, hd⟩

end Below

/-! ### Growing -/

namespace IsPrefixTree

variable {nss : List (List Text)} {ns : List Text} {forest : List Branch}

/-- A branch that a sequence does not begin with has what it had below it. -/
theorem of_mem_concat (h : IsPrefixTree nss forest) {b : Branch} (hb : b ∈ forest)
    (hne : ns.head? ≠ some b.name) : IsPrefixTree (behind [b.name] (nss ++ [ns])) b.children := by
  rw [behind_concat_of_head?_ne nss hne]
  exact h.of_mem hb

theorem concat_nil (h : IsPrefixTree nss forest) : IsPrefixTree (nss ++ [[]]) forest := by
  refine .mk ?_ ?_
  · rw [heads_concat_nil]
    exact h.map_name
  · intro b hb
    exact h.of_mem_concat hb (by simp)

/-- A sequence that came before changes nothing. -/
theorem again (h : IsPrefixTree nss forest) (hns : ns ∈ nss) :
    IsPrefixTree (nss ++ [ns]) forest := by
  induction ns generalizing nss forest with
  | nil => exact h.concat_nil
  | cons name r ih =>
      refine .mk ?_ ?_
      · rw [heads_concat_cons, eraseDups_concat_of_mem (mem_heads.2 ⟨r, hns⟩), h.map_name]
      · intro b hb
        by_cases hname : name = b.name
        · subst hname
          rw [behind_concat_self]
          exact ih (h.of_mem hb) (mem_behind.2 hns)
        · exact h.of_mem_concat hb (by simpa using hname)

/-- Names that are grown into the forest of some sequences make it the forest of these and
of one sequence more. -/
theorem grow (h : IsPrefixTree nss forest) (ns : List Text) :
    IsPrefixTree (nss ++ [ns]) (Outline.grow ns forest) := by
  induction ns generalizing nss forest with
  | nil => exact h.concat_nil
  | cons name r ih =>
      rw [Outline.grow]
      by_cases hname : name ∈ forest.map Branch.name
      · -- The names go on below the branch that there is.
        have hmem : name ∈ heads nss := by
          rwa [h.map_name, List.mem_eraseDups] at hname
        refine .mk ?_ ?_
        · rw [heads_concat_cons, eraseDups_concat_of_mem hmem, map_name_below_of_mem hname,
            h.map_name]
        · intro b hb
          rcases mem_below_of_mem h.nodup hname hb with ⟨hold, hne⟩ | ⟨c, hc, rfl, rfl⟩
          · exact h.of_mem_concat hold (by simpa using hne.symm)
          · show IsPrefixTree (behind [c.name] _) (Outline.grow r c.children)
            rw [behind_concat_self]
            exact ih (h.of_mem hc)
      · -- The names make a branch of their own.
        have hnew : name ∉ heads nss := by
          rwa [h.map_name, List.mem_eraseDups] at hname
        rw [below_of_not_mem hname]
        refine .mk ?_ ?_
        · rw [heads_concat_cons, eraseDups_concat_of_not_mem hnew, List.map_append, h.map_name]
          rfl
        · intro b hb
          rcases List.mem_append.1 hb with hold | hlast
          · refine h.of_mem_concat hold ?_
            intro hhead
            obtain rfl : name = b.name := Option.some.inj hhead
            exact hname (List.mem_map_of_mem hold)
          · rw [List.mem_singleton.1 hlast]
            show IsPrefixTree (behind [name] _) (Outline.grow r [])
            rw [behind_concat_self, behind_eq_nil_of_not_mem_heads hnew]
            exact ih empty

end IsPrefixTree

/-! ## Places -/

/-- From a forest the names lead down to the branches that stand below the last of them. -/
inductive Leads : List Branch → List Text → List Branch → Prop
  | here (forest : List Branch) : Leads forest [] forest
  | down {forest : List Branch} {b : Branch} {q : List Text} {siblings : List Branch}
      (mem : b ∈ forest) (rest : Leads b.children q siblings) : Leads forest (b.name :: q) siblings

/-- There is a branch at the end of these names. -/
def HasNode (forest : List Branch) (q : List Text) : Prop :=
  q ≠ [] ∧ ∃ siblings, Leads forest q siblings

namespace IsPrefixTree

variable {nss : List (List Text)} {forest siblings : List Branch} {q : List Text}

theorem of_leads (h : IsPrefixTree nss forest) (hleads : Leads forest q siblings) :
    IsPrefixTree (behind q nss) siblings := by
  induction hleads generalizing nss with
  | here forest =>
      rw [behind_nil]
      exact h
  | @down forest b q _ mem _ ih =>
      rw [← List.singleton_append, behind_append]
      exact ih (h.of_mem mem)

theorem exists_leads_iff (h : IsPrefixTree nss forest) :
    (∃ siblings, Leads forest q siblings) ↔ q = [] ∨ ∃ ns ∈ nss, q <+: ns := by
  constructor
  · rintro ⟨siblings, hleads⟩
    induction hleads generalizing nss with
    | here forest => exact .inl rfl
    | @down forest b q _ mem _ ih =>
        refine .inr ?_
        rcases ih (h.of_mem mem) with rfl | ⟨r, hr, hpre⟩
        · obtain ⟨r, hr⟩ := h.mem_names_iff.1 ⟨b, mem, rfl⟩
          exact ⟨b.name :: r, hr, List.prefix_append [b.name] r⟩
        · exact ⟨b.name :: r, mem_behind.1 hr, (List.cons_prefix_cons).2 ⟨rfl, hpre⟩⟩
  · intro hq
    induction q generalizing nss forest with
    | nil => exact ⟨forest, .here forest⟩
    | cons name q ih =>
        rcases hq with hnil | ⟨_, hns, r, rfl⟩
        · exact absurd hnil (List.cons_ne_nil name q)
        · obtain ⟨b, hb, rfl⟩ := h.mem_names_iff.2 ⟨q ++ r, hns⟩
          have hbehind : q ++ r ∈ behind [b.name] nss := mem_behind.2 hns
          obtain ⟨siblings, hleads⟩ :=
            ih (h.of_mem hb) (.inr ⟨q ++ r, hbehind, List.prefix_append q r⟩)
          exact ⟨siblings, .down hb hleads⟩

end IsPrefixTree

/-! ## A run over some paths -/

/-- Where the first path stands that goes through these names. -/
def firstThrough (paths : List Path) (q : List Text) : Nat :=
  paths.findIdx fun p => q.isPrefixOf (names p)

/-- The names that follow next on `q` in some paths, one after another. -/
theorem heads_behind_names (q : List Text) (paths : List Path) :
    heads (behind q (paths.map names)) =
      paths.filterMap fun p => ((names p).dropPrefix? q).bind List.head? := by
  rw [heads, behind, List.filterMap_filterMap, List.filterMap_map]
  rfl

theorem bind_head?_dropPrefix?_eq_some_iff {ns q : List Text} {x : Text} :
    (ns.dropPrefix? q).bind List.head? = some x ↔ q ++ [x] <+: ns := by
  simp only [Option.bind_eq_some_iff, dropPrefix?_eq_some_iff, List.head?_eq_some_iff]
  constructor
  · rintro ⟨_, rfl, r, rfl⟩
    exact ⟨r, List.append_assoc q [x] r⟩
  · rintro ⟨r, rfl⟩
    exact ⟨x :: r, List.append_assoc q [x] r, r, rfl⟩

theorem findIdx_next_eq_firstThrough (paths : List Path) (q : List Text) (x : Text) :
    paths.findIdx (fun p => ((names p).dropPrefix? q).bind List.head? == some x) =
      firstThrough paths (q ++ [x]) := by
  rw [firstThrough]
  congr 1
  funext p
  rw [Bool.eq_iff_iff, beq_iff_eq, bind_head?_dropPrefix?_eq_some_iff, List.isPrefixOf_iff_prefix]

/-- An outline draws the paths that were seen, of which it keeps some. -/
structure Draws (o : Outline) (seen : List Path) : Prop where
  tree : IsPrefixTree (seen.map names) o.forest
  kept : ∀ p ∈ o.paths, p ∈ seen

namespace Draws

variable {o : Outline} {seen : List Path}

theorem empty : Draws Outline.empty [] :=
  ⟨IsPrefixTree.empty, by simp [Outline.empty]⟩

theorem add (h : Draws o seen) (p : Path) : Draws (o.add p) (seen ++ [p]) := by
  by_cases hsame : o.paths.any p.same = true
  · -- The path is passed over, and one with the same names was there.
    rw [Outline.add, if_pos hsame]
    obtain ⟨k, hk, hpk⟩ := List.any_eq_true.1 hsame
    have hnames : names k = names p := by
      rw [names, names, eq_of_beq hpk]
    refine ⟨?_, ?_⟩
    · rw [List.map_append]
      exact h.tree.again (List.mem_map.2 ⟨k, h.kept k hk, hnames⟩)
    · intro k hk
      exact List.mem_append_left [p] (h.kept k hk)
  · rw [Outline.add, if_neg hsame]
    refine ⟨?_, ?_⟩
    · rw [List.map_append]
      exact h.tree.grow (names p)
    · intro k hk
      rcases List.mem_append.1 hk with hold | hlast
      · exact List.mem_append_left [p] (h.kept k hold)
      · exact List.mem_append_right seen hlast

theorem foldl (h : Draws o seen) (paths : List Path) :
    Draws (paths.foldl Outline.add o) (seen ++ paths) := by
  induction paths generalizing o seen with
  | nil =>
      rw [List.append_nil]
      exact h
  | cons p r ih =>
      rw [← List.singleton_append, ← List.append_assoc]
      exact ih (h.add p)

theorem ofPaths (paths : List Path) : Draws (Outline.ofPaths paths) paths :=
  empty.foldl paths

end Draws

/-- The paths that an outline keeps, with the ones that it kept before in hand. -/
theorem paths_foldl_add (paths : List Path) (o : Outline) :
    (paths.foldl add o).paths = List.eraseDupsBy.loop Path.same paths o.paths.reverse := by
  induction paths generalizing o with
  | nil => simp [List.eraseDupsBy.loop]
  | cons p r ih =>
      rw [List.foldl_cons, ih, List.eraseDupsBy.loop, List.any_reverse]
      cases hsame : o.paths.any p.same with
      | true => simp [add, hsame]
      | false => simp [add, hsame]

/-- The forest of some paths is their prefix tree.  There is a branch at the end of `q`
just if it is not empty and one of the paths begins with it, at each place the branches
have names of their own and stand in the order of the first paths that go through them, and
of paths with the same components the first one is kept. -/
theorem ofPaths_is_prefix_tree (paths : List Path) :
    (∀ q, HasNode (ofPaths paths).forest q ↔ q ≠ [] ∧ ∃ p ∈ paths, q <+: names p) ∧
    (∀ q siblings, Leads (ofPaths paths).forest q siblings →
      (siblings.map Branch.name).Nodup ∧
      siblings.Pairwise fun b c =>
        firstThrough paths (q ++ [b.name]) < firstThrough paths (q ++ [c.name])) ∧
    (ofPaths paths).paths = paths.eraseDupsBy Path.same := by
  have htree : IsPrefixTree (paths.map names) (ofPaths paths).forest := (Draws.ofPaths paths).tree
  refine ⟨?_, ?_, ?_⟩
  · intro q
    rw [HasNode, htree.exists_leads_iff]
    refine and_congr_right ?_
    intro hq
    simp [hq]
  · intro q siblings hleads
    have hplace := htree.of_leads hleads
    refine ⟨hplace.nodup, ?_⟩
    rw [← List.pairwise_map (R := fun x y =>
      firstThrough paths (q ++ [x]) < firstThrough paths (q ++ [y])), hplace.map_name,
      heads_behind_names]
    simp only [← findIdx_next_eq_firstThrough]
    exact pairwise_eraseDups_filterMap _ paths
  · exact paths_foldl_add paths empty

end Scaffold.Outline
