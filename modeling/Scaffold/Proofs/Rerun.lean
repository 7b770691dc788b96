/-
# Running a template over a file again

Without edits a run has three steps, and each of them leaves its own result
alone: a seeded file is settled, a merged file is satisfied, and nothing is
deduped unless something was changed.  The last two do not go together.
Deduping may take a line out of a block that the merge has just put in, so that
the next merge does not find the block and puts it in again.

So a settled file is left alone by a run if it is satisfied.  Otherwise it grows
by a merge, and stays the same only if deduping happens to take away what was
put in (`apply_eq_same_iff`).  Every run leaves a settled file, so the rest of the
condition says when the next run changes nothing (`apply_apply_eq_same_iff`).
-/
import Scaffold.Proofs.DedupeLaws
import Scaffold.Proofs.MergeLaws
import Scaffold.Proofs.SeedingLaws
import Scaffold.Update

namespace Scaffold.Update

open Marker (anyIn)

variable {values : Placeholders} {options : MergeOptions} {node : Node}

/-! ## Runs without edits -/

theorem edit_of_insertions (h : node.insertions = []) (S : SnippetMap) (content : Text) :
    edit values node S content = .same content := by
  rw [edit, h]
  rfl

/-- What the steps before deduping make of a file. -/
def merged (options : MergeOptions) (node : Node) (existing body : Text) : Outcome :=
  (seed options node existing body).andThen fun c => mergeSnippets c (SnippetMap.ofText body)

theorem apply_of_insertions (h : node.insertions = []) (existing body : Text) :
    apply values options node existing body =
      settle existing (dedupe options (merged options node existing body)) := by
  have hedited : (seed options node existing body).andThen
      (edit values node (SnippetMap.ofText body)) = seed options node existing body := by
    rw [Outcome.andThen, edit_of_insertions h]
    simp [Outcome.same]
  rw [apply, hedited, merged]

theorem content_dedupe_cases (options : MergeOptions) (o : Outcome) :
    (dedupe options o).content = o.content ∨
      (dedupe options o).content = (Dedupe.all o.content).content := by
  rw [dedupe]
  cases options.cleanup && o.changed with
  | true => exact .inr rfl
  | false => exact .inl rfl

/-- A run ends with what the merge left, or with that deduped. -/
theorem content_apply_cases (values : Placeholders) (options : MergeOptions)
    (h : node.insertions = []) (existing body : Text) :
    (apply values options node existing body).content =
        (merged options node existing body).content ∨
      (apply values options node existing body).content =
        (Dedupe.all (merged options node existing body).content).content := by
  rw [apply_of_insertions h]
  exact content_dedupe_cases options (merged options node existing body)

/-! ## Settled files -/

/-- No markers will be seeded into the file. -/
def Settled (options : MergeOptions) (node : Node) (body content : Text) : Prop :=
  (node.isIndexer && options.seedIndexerMarkers) = false ∨ Seeding.Settled body content

theorem seed_of_settled {body content : Text} (h : Settled options node body content) :
    seed options node content body = .same content := by
  rw [seed]
  split
  next hseeds =>
    rcases h with h | h
    · rw [h] at hseeds
      exact absurd hseeds Bool.false_ne_true
    · exact Seeding.seed_of_settled h
  next => rfl

theorem settled_seed (existing body : Text) :
    Settled options node body (seed options node existing body).content := by
  rw [seed]
  split
  next => exact .inr (Seeding.settled_seed existing body)
  next hseeds => exact .inl (Bool.eq_false_iff.2 hseeds)

theorem Settled.congr {body content content' : Text} (hany : anyIn content' = anyIn content)
    (h : Settled options node body content) : Settled options node body content' := by
  rw [Settled, Seeding.Settled, hany]
  exact h

theorem anyIn_merged (existing body : Text) :
    anyIn (merged options node existing body).content =
      anyIn (seed options node existing body).content :=
  anyIn_mergeSnippets (SnippetMap.plain_ofText body) _

theorem anyIn_apply (values : Placeholders) (options : MergeOptions)
    (h : node.insertions = []) (existing body : Text) :
    anyIn (apply values options node existing body).content =
      anyIn (seed options node existing body).content := by
  rcases content_apply_cases values options h existing body with hr | hr
  · rw [hr, anyIn_merged]
  · rw [hr, Dedupe.anyIn_all, anyIn_merged]

/-- Every run leaves a settled file. -/
theorem settled_apply (values : Placeholders) (options : MergeOptions)
    (h : node.insertions = []) (existing body : Text) :
    Settled options node body (apply values options node existing body).content :=
  (settled_seed existing body).congr (anyIn_apply values options h existing body)

/-! ## Runs over settled files -/

theorem merged_of_settled {body content : Text} (h : Settled options node body content) :
    merged options node content body = mergeSnippets content (SnippetMap.ofText body) := by
  rw [merged, seed_of_settled h, Outcome.same_andThen]

theorem settle_eq_same_iff {existing : Text} {o : Outcome} :
    settle existing o = .same existing ↔ o.content = existing := by
  rw [settle, Outcome.same, Outcome.mk.injEq]
  constructor
  · intro h
    exact h.1
  · intro h
    exact ⟨h, by rw [h, bne_self_eq_false]⟩

theorem mergeSnippets_of_not_changed {S : SnippetMap} {content : Text}
    (h : (mergeSnippets content S).changed = false) : mergeSnippets content S = .same content := by
  rcases mergeSnippets_cases content S with ⟨hsame, -⟩ | ⟨hedited, -⟩
  · exact hsame
  · rw [hedited] at h
    exact absurd h (by simp [Outcome.edited])

/-- A settled file is left alone if it is satisfied, or if deduping takes back
what the merge puts in. -/
theorem apply_eq_same_iff_of_settled (hinsertions : node.insertions = []) {body content : Text}
    (h : Settled options node body content) :
    apply values options node content body = .same content ↔
      (SnippetMap.ofText body).Satisfied content.lines ∨
        (options.cleanup = true ∧
          (Dedupe.all (mergeSnippets content (SnippetMap.ofText body)).content).content =
            content) := by
  have hS := SnippetMap.plain_ofText body
  rw [apply_of_insertions hinsertions, settle_eq_same_iff, merged_of_settled h,
    ← mergeSnippets_eq_same_iff hS]
  cases hchanged : (mergeSnippets content (SnippetMap.ofText body)).changed with
  | false =>
      have hsame := mergeSnippets_of_not_changed hchanged
      refine iff_of_true ?_ (.inl hsame)
      rw [dedupe, hchanged, Bool.and_false, if_neg Bool.false_ne_true, hsame]
      rfl
  | true =>
      have hne := content_mergeSnippets_ne hS hchanged
      cases hcleanup : options.cleanup with
      | false =>
          rw [dedupe, hcleanup, Bool.false_and, if_neg Bool.false_ne_true]
          refine iff_of_false hne ?_
          rintro (hsame | ⟨hfalse, -⟩)
          · exact hne (congrArg Outcome.content hsame)
          · exact Bool.false_ne_true hfalse
      | true =>
          rw [dedupe, hcleanup, hchanged, Bool.and_self, if_pos rfl, Outcome.content_andThen]
          constructor
          · intro hback
            exact .inr ⟨rfl, hback⟩
          · rintro (hsame | ⟨-, hback⟩)
            · exact absurd (congrArg Outcome.content hsame) hne
            · exact hback

/-- A file that is not settled is changed, since it gets a marker. -/
theorem apply_ne_same_of_not_settled (hinsertions : node.insertions = []) {body content : Text}
    (h : ¬ Settled options node body content) :
    apply values options node content body ≠ .same content := by
  rw [Settled, not_or, Bool.not_eq_false] at h
  obtain ⟨hseeds, hunsettled⟩ := h
  rcases Seeding.seed_cases content body with ⟨-, hsettled⟩ | ⟨hnone, -, hany⟩
  · exact absurd hsettled hunsettled
  · intro hsame
    have hcontent := anyIn_apply values options hinsertions content body
    rw [hsame, seed, if_pos hseeds, hany] at hcontent
    exact Bool.false_ne_true (hnone.symm.trans hcontent)

/-- Exactly which files a run leaves alone. -/
theorem apply_eq_same_iff (hinsertions : node.insertions = []) {body content : Text} :
    apply values options node content body = .same content ↔
      Settled options node body content ∧
        ((SnippetMap.ofText body).Satisfied content.lines ∨
          (options.cleanup = true ∧
            (Dedupe.all (mergeSnippets content (SnippetMap.ofText body)).content).content =
              content)) := by
  constructor
  · intro hsame
    have hsettled : Settled options node body content := by
      refine Classical.byContradiction ?_
      intro hunsettled
      exact apply_ne_same_of_not_settled hinsertions hunsettled hsame
    exact ⟨hsettled, (apply_eq_same_iff_of_settled hinsertions hsettled).1 hsame⟩
  · rintro ⟨hsettled, hmerge⟩
    exact (apply_eq_same_iff_of_settled hinsertions hsettled).2 hmerge

theorem satisfied_merged (existing body : Text) :
    (SnippetMap.ofText body).Satisfied (merged options node existing body).content.lines :=
  satisfied_mergeSnippets (SnippetMap.plain_ofText body) _

/-- Exactly when the next run leaves the result of a run alone; it does if
deduping took nothing away. -/
theorem apply_apply_eq_same_iff (values : Placeholders) (options : MergeOptions) (node : Node)
    (hinsertions : node.insertions = []) (existing body : Text) :
    let r := (apply values options node existing body).content
    (apply values options node r body = .same r ↔
      (SnippetMap.ofText body).Satisfied r.lines ∨
        (options.cleanup = true ∧
          (Dedupe.all (mergeSnippets r (SnippetMap.ofText body)).content).content = r)) ∧
      (r = (merged options node existing body).content →
        apply values options node r body = .same r) := by
  have hsettled := settled_apply values options hinsertions existing body
  refine ⟨apply_eq_same_iff_of_settled hinsertions hsettled, ?_⟩
  intro hr
  refine (apply_eq_same_iff_of_settled hinsertions hsettled).2 (.inl ?_)
  rw [hr]
  exact satisfied_merged existing body

theorem apply_apply_of_import :
    let run := fun file => apply .empty {} { name := "a.ts".toList } file
      "// START OF X\nimport b from 'b'\n// END OF X\n".toList
    run (run "// ADD X BELOW\n".toList).content = .same (run "// ADD X BELOW\n".toList).content :=
  (apply_apply_eq_same_iff .empty {} { name := "a.ts".toList } rfl "// ADD X BELOW\n".toList
    "// START OF X\nimport b from 'b'\n// END OF X\n".toList).2 (by decide +kernel)

/-- Deduping takes the second line of the snippet away again, so the next run
does not find the snippet and puts its first line in once more. -/
theorem apply_repeats_insertion :
    let run := fun file => apply .empty {} { name := "a.ts".toList } file
      "// START OF X\nfoo()\nimport a from 'a'\n// END OF X\n".toList
    run "import a from 'a'\n// ADD X BELOW\n".toList =
        .edited "import a from 'a'\n// ADD X BELOW\nfoo()\n".toList ∧
      run "import a from 'a'\n// ADD X BELOW\nfoo()\n".toList =
        .edited "import a from 'a'\n// ADD X BELOW\nfoo()\nfoo()\n".toList := by
  decide +kernel

end Scaffold.Update
