/-
# Drawings are read back

A drawing leaves no doubt about its forest.  Names may hold anything else, blanks and
strokes too, since a line says by its first stroke what it is, and all of its name comes
behind the strokes:

    ├── name    └── name    a branch that stands here
    │   line        line    a line from below the branch before, four characters further in

A reader takes each line of the first kind as a branch and the lines of the second kind that
follow it, moved out again, as what stands below (`read`).  What it reads is the forest that
was drawn (`read_draw`).  Which branch is the last one is drawn as well, but need not be
looked at.

The lines can be told apart in a text as long as neither the label nor a name holds a line
feed.  Then one text has one label and one forest (`render_eq_render_iff`).
-/
import Scaffold.Proofs.PrefixTree

namespace Scaffold.Outline

/-! ## Strokes -/

/-- What is drawn in front of the name of a branch that the branches `r` follow. -/
def joint (r : List Branch) : Text :=
  if r.isEmpty then "└── ".toList else "├── ".toList

/-- What is drawn in front of the lines below such a branch. -/
def rail (r : List Branch) : Text :=
  if r.isEmpty then "    ".toList else "│   ".toList

theorem length_joint (r : List Branch) : (joint r).length = 4 := by
  cases r <;> rfl

theorem length_rail (r : List Branch) : (rail r).length = 4 := by
  cases r <;> rfl

theorem feed_notMem_joint (r : List Branch) : '\n' ∉ joint r := by
  cases r <;> simp [joint]

theorem feed_notMem_rail (r : List Branch) : '\n' ∉ rail r := by
  cases r <;> simp [rail]

theorem draw_cons (lead name : Text) (children r : List Branch) :
    draw lead (.mk name children :: r) =
      (lead ++ joint r ++ name) :: (draw (lead ++ rail r) children ++ draw lead r) := by
  cases r with
  | nil => simp [draw, joint, rail]
  | cons b r => simp [draw, joint, rail]

/-- What is drawn further in are the same lines with more in front of them. -/
theorem draw_append : ∀ (forest : List Branch) (lead inner : Text),
    draw (lead ++ inner) forest = (draw inner forest).map (lead ++ ·)
  | [], _, _ => by rw [draw, draw, List.map_nil]
  | .mk name children :: r, lead, inner => by
      rw [draw_cons, draw_cons, List.append_assoc lead inner (rail r), draw_append children,
        draw_append r]
      simp only [List.map_cons, List.map_append, List.append_assoc]

/-! ## Reading lines -/

/-- Whether a line comes from below a branch before it. -/
def movedIn (l : Text) : Bool :=
  l.head? == some '│' || l.head? == some ' '

/-- Reads lines as a forest: a line that is not moved in is a branch, and the moved-in lines
after it are what stands below that branch. -/
def read : List Text → List Branch
  | [] => []
  | l :: r =>
    .mk (l.drop 4) (read ((r.takeWhile movedIn).map (List.drop 4))) :: read (r.dropWhile movedIn)
termination_by ls => ls.length
decreasing_by
  · rw [List.length_map, List.length_cons]
    exact Nat.lt_succ_of_le (List.takeWhile_sublist movedIn).length_le
  · rw [List.length_cons]
    exact Nat.lt_succ_of_le (List.dropWhile_sublist movedIn).length_le

theorem movedIn_joint_append (r : List Branch) (l : Text) : movedIn (joint r ++ l) = false := by
  cases r <;> rfl

theorem movedIn_rail_append (r : List Branch) (l : Text) : movedIn (rail r ++ l) = true := by
  cases r <;> rfl

/-- The first line of a drawing is a branch. -/
theorem movedIn_of_head?_draw {forest : List Branch} {l : Text}
    (h : (draw [] forest).head? = some l) : movedIn l = false := by
  cases forest with
  | nil => exact absurd h (by simp [draw])
  | cons b r =>
      obtain ⟨name, children⟩ := b
      rw [draw_cons, List.head?_cons, Option.some.injEq, List.nil_append] at h
      exact h ▸ movedIn_joint_append r name

/-- A reader takes the lines that are moved in up to the first one that is not. -/
theorem read_cons_append {below rest : List Text} (l : Text)
    (hbelow : ∀ k ∈ below, movedIn k = true)
    (hrest : ∀ k, rest.head? = some k → movedIn k = false) :
    read (l :: (below ++ rest)) =
      .mk (l.drop 4) (read (below.map (List.drop 4))) :: read rest := by
  rw [read, List.takeWhile_append_of_pos hbelow, List.dropWhile_append_of_pos hbelow]
  cases rest with
  | nil => simp
  | cons k rest =>
      have hk : ¬movedIn k = true := Bool.eq_false_iff.1 (hrest k rfl)
      rw [List.takeWhile_cons_of_neg hk, List.dropWhile_cons_of_neg hk, List.append_nil]

/-- The forest that was drawn is read back. -/
theorem read_draw : ∀ forest : List Branch, read (draw [] forest) = forest
  | [] => by rw [draw, read]
  | .mk name children :: r => by
      -- all lines of the children stand behind one rail, and what follows them starts with a joint
      have hbelow : ∀ l ∈ (draw [] children).map (rail r ++ ·), movedIn l = true := by
        intro l hl
        obtain ⟨k, -, rfl⟩ := List.mem_map.1 hl
        exact movedIn_rail_append r k
      have hname : (joint r ++ name).drop 4 = name := by
        rw [← length_joint r, List.drop_left]
      have hout : ((draw [] children).map (rail r ++ ·)).map (List.drop 4) = draw [] children := by
        rw [List.map_map]
        refine List.map_id'' ?_ _
        intro k
        show (rail r ++ k).drop 4 = k
        rw [← length_rail r, List.drop_left]
      rw [draw_cons, List.nil_append, List.nil_append, ← List.append_nil (rail r), draw_append,
        read_cons_append _ hbelow fun _ => movedIn_of_head?_draw, hname, hout,
        read_draw children, read_draw r]

/-! ## Reading a text -/

/-- Reads a drawing as its label and its forest. -/
def readText (drawing : Text) : Text × List Branch :=
  let lines := (drawing.splitOn '\n').dropLast
  (lines.headD [], read lines.tail)

/-- Lines that hold no line feed can be told apart in the text that they make. -/
theorem splitOn_flatMap_feed : ∀ {ls : List Text}, (∀ l ∈ ls, '\n' ∉ l) →
    (ls.flatMap (· ++ ['\n'])).splitOn '\n' = ls ++ [[]] := by
  intro ls
  induction ls with
  | nil => intro _; rfl
  | cons l r ih =>
      intro hls
      rw [List.forall_mem_cons] at hls
      rw [List.flatMap_cons, List.append_assoc, List.singleton_append,
        List.splitOn_append_cons_self_of_not_mem hls.1, ih hls.2, List.cons_append]

/-- No name of the forest holds the character. -/
def Lacks (c : Char) (forest : List Branch) : Prop :=
  ∀ q siblings, Leads forest q siblings → ∀ name ∈ q, c ∉ name

section Lacks

variable {c : Char} {t : Text} {below r : List Branch}

theorem Lacks.name (h : Lacks c (.mk t below :: r)) : c ∉ t :=
  h [t] below (.down List.mem_cons_self (.here below)) t List.mem_cons_self

theorem Lacks.children (h : Lacks c (.mk t below :: r)) : Lacks c below := by
  intro q siblings hleads name hname
  exact h (t :: q) siblings (.down List.mem_cons_self hleads) name (List.mem_cons_of_mem t hname)

theorem Lacks.rest (h : Lacks c (.mk t below :: r)) : Lacks c r := by
  intro q siblings hleads name hname
  cases hleads with
  | here => exact absurd hname List.not_mem_nil
  | down mem rest => exact h _ siblings (.down (List.mem_cons_of_mem _ mem) rest) name hname

theorem IsPrefixTree.lacks {nss : List (List Text)} {forest : List Branch}
    (h : IsPrefixTree nss forest) (hnss : ∀ ns ∈ nss, ∀ name ∈ ns, c ∉ name) : Lacks c forest := by
  intro q siblings hleads name hname
  rcases h.exists_leads_iff.1 ⟨siblings, hleads⟩ with rfl | ⟨ns, hns, hpre⟩
  · exact absurd hname List.not_mem_nil
  · exact hnss ns hns name (hpre.subset hname)

end Lacks

/-- Strokes bring no line feed into a line. -/
theorem feed_notMem_of_mem_draw : ∀ {forest : List Branch} {lead : Text}, Lacks '\n' forest →
    '\n' ∉ lead → ∀ l ∈ draw lead forest, '\n' ∉ l
  | [], _, _, _, l, hl => absurd hl (by simp [draw])
  | .mk name children :: r, lead, hforest, hlead, l, hl => by
      rw [draw_cons] at hl
      rcases List.mem_cons.1 hl with rfl | hl
      · simp only [List.mem_append, not_or]
        exact ⟨⟨hlead, feed_notMem_joint r⟩, hforest.name⟩
      · rcases List.mem_append.1 hl with hl | hl
        · refine feed_notMem_of_mem_draw hforest.children ?_ l hl
          exact List.not_mem_append hlead (feed_notMem_rail r)
        · exact feed_notMem_of_mem_draw hforest.rest hlead l hl

/-! ## Drawings of paths -/

/-- No component of the paths holds a line feed. -/
def FeedFree (paths : List Path) : Prop :=
  ∀ p ∈ paths, ∀ name ∈ names p, '\n' ∉ name

theorem FeedFree.lacks {paths : List Path} (h : FeedFree paths) :
    Lacks '\n' (ofPaths paths).forest := by
  refine (Draws.ofPaths paths).tree.lacks ?_
  intro ns hns
  obtain ⟨p, hp, rfl⟩ := List.mem_map.1 hns
  exact h p hp

/-- From the drawing of some paths the label and the forest are read back. -/
theorem readText_render {paths : List Path} (h : FeedFree paths) {label : Text}
    (hlabel : '\n' ∉ label) :
    readText ((ofPaths paths).render label) = (label, (ofPaths paths).forest) := by
  have hlines : ∀ l ∈ label :: draw [] (ofPaths paths).forest, '\n' ∉ l :=
    List.forall_mem_cons.2 ⟨hlabel, feed_notMem_of_mem_draw h.lacks List.not_mem_nil⟩
  rw [readText, render, splitOn_flatMap_feed hlines, List.dropLast_concat]
  show (label, read (draw [] (ofPaths paths).forest)) = _
  rw [read_draw]

/-- A drawing is unambiguous: two of them are the same text just if they have the same label
and the same forest, whatever the names hold besides line feeds. -/
theorem render_eq_render_iff {paths paths' : List Path} {label label' : Text}
    (hpaths : FeedFree paths) (hpaths' : FeedFree paths') (hlabel : '\n' ∉ label)
    (hlabel' : '\n' ∉ label') :
    (ofPaths paths).render label = (ofPaths paths').render label' ↔
      label = label' ∧ (ofPaths paths).forest = (ofPaths paths').forest := by
  constructor
  · intro h
    have hread : (label, (ofPaths paths).forest) = (label', (ofPaths paths').forest) := by
      rw [← readText_render hpaths hlabel, h, readText_render hpaths' hlabel']
    exact Prod.ext_iff.1 hread
  · rintro ⟨rfl, hforest⟩
    rw [render, render, hforest]

/-- Names that look like lines of a drawing, and two ways to write their paths. -/
theorem render_eq_render_of_strokes :
    let paths : List Path := [⟨"├── a/    └── x".toList⟩, ⟨"│   b".toList⟩]
    let paths' : List Path :=
      [⟨"./├── a//    └── x".toList⟩, ⟨"├── a".toList⟩, ⟨"│   b/".toList⟩]
    let label : Text := "└── ".toList
    let drawing : Text := "└── \n├── ├── a\n│   └──     └── x\n└── │   b\n".toList
    FeedFree paths ∧ FeedFree paths' ∧ '\n' ∉ label ∧ (ofPaths paths).render label = drawing ∧
      (ofPaths paths').render label = drawing ∧
      (ofPaths paths).forest = (ofPaths paths').forest := by
  intro paths paths' label drawing
  have hpaths : FeedFree paths := by unfold FeedFree; decide +kernel
  have hpaths' : FeedFree paths' := by unfold FeedFree; decide +kernel
  have hlabel : '\n' ∉ label := by decide
  have hforest : (ofPaths paths).forest =
      [.mk "├── a".toList [.mk "    └── x".toList []], .mk "│   b".toList []] := rfl
  have hforest' : (ofPaths paths').forest =
      [.mk "├── a".toList [.mk "    └── x".toList []], .mk "│   b".toList []] := rfl
  have hdrawn : (ofPaths paths).render label = drawing := by
    rw [render, hforest]
    simp [draw, label, drawing]
  have hdrawn' : (ofPaths paths').render label = drawing := by
    rw [render, hforest']
    simp [draw, label, drawing]
  exact ⟨hpaths, hpaths', hlabel, hdrawn, hdrawn',
    ((render_eq_render_iff hpaths hpaths' hlabel hlabel).1 (hdrawn.trans hdrawn'.symm)).2⟩

/-- A line feed in a name could make up a branch. -/
example : (ofPaths [⟨"a\n    └── b".toList⟩]).render [] = (ofPaths [⟨"a/b".toList⟩]).render [] := by
  cbv

end Scaffold.Outline
