/-
# Paths seen from a place above them

A path that is cut off at a base and joined to it again has the components it
had (`components_join_relativeTo`), also where it does not start with the base
at all and is therefore left whole.

The components of an absolute path are the root and what its pieces mean.
Joining puts pieces behind pieces, and cutting a base off takes pieces away
from the front until as many components are gone as the base has.  What is left
starts with a piece that means something, so that it is not taken for an
absolute path when it is joined again.
-/
import Mathlib.Data.List.TakeWhile
import Scaffold.Path

namespace Scaffold.Path

/-! ## Pieces -/

theorem not_mem_of_mem_pieces {t piece : Text} (h : piece ∈ pieces t) : '/' ∉ piece := by
  induction t generalizing piece with
  | nil =>
      obtain rfl := List.mem_singleton.1 h
      exact List.not_mem_nil
  | cons c r ih =>
      rw [pieces] at h
      split at h
      next =>
        rcases List.mem_cons.1 h with rfl | h
        · exact List.not_mem_nil
        · exact ih h
      next hc =>
        obtain ⟨first, rest, hr⟩ := List.exists_cons_of_ne_nil (pieces_ne_nil r)
        rw [hr] at h ih
        rcases List.mem_cons.1 h with rfl | h
        · rw [List.mem_cons, not_or]
          refine ⟨?_, ih List.mem_cons_self⟩
          rintro rfl
          exact hc rfl
        · exact ih (List.mem_cons_of_mem first h)

theorem pieces_append_slash (a b : Text) : pieces (a ++ '/' :: b) = pieces a ++ pieces b := by
  induction a with
  | nil => rfl
  | cons c r ih =>
      rw [List.cons_append, pieces, pieces, ih]
      split
      · rfl
      · obtain ⟨first, rest, hr⟩ := List.exists_cons_of_ne_nil (pieces_ne_nil r)
        rw [hr]
        rfl

theorem pieces_of_not_mem {t : Text} (h : '/' ∉ t) : pieces t = [t] := by
  induction t with
  | nil => rfl
  | cons c r ih =>
      rw [List.mem_cons, not_or] at h
      rw [pieces, if_neg (by simpa using Ne.symm h.1), ih h.2]
      rfl

/-- Pieces that were put together are found again. -/
theorem pieces_ofPieces {ps : List Text} (hne : ps ≠ []) (h : ∀ piece ∈ ps, '/' ∉ piece) :
    pieces (ofPieces ps) = ps := by
  induction ps with
  | nil => exact absurd rfl hne
  | cons p r ih =>
      have hp := pieces_of_not_mem (h p List.mem_cons_self)
      cases r with
      | nil => simpa [ofPieces] using hp
      | cons q s =>
          have hrest := ih (List.cons_ne_nil q s) fun piece hm => h piece (List.mem_cons_of_mem p hm)
          have hjoin : ofPieces (p :: q :: s) = p ++ '/' :: ofPieces (q :: s) := by
            simp [ofPieces, List.intercalate_cons_cons]
          rw [hjoin, pieces_append_slash, hp, hrest]
          rfl

/-! ## What pieces mean -/

/-- The components that some pieces mean, none of them in front. -/
def meaning (ps : List Text) : List Component :=
  ps.filterMap component?

theorem meaning_append (a b : List Text) : meaning (a ++ b) = meaning a ++ meaning b :=
  List.filterMap_append ..

theorem meaning_of_nothing {ps : List Text} (h : ∀ piece ∈ ps, isNothing piece = true) :
    meaning ps = [] := by
  rw [meaning, List.filterMap_eq_nil_iff]
  intro piece hm
  simpa [isNothing] using h piece hm

theorem meaning_pieces_ofPieces {ps : List Text} (h : ∀ piece ∈ ps, '/' ∉ piece) :
    meaning (pieces (ofPieces ps)) = meaning ps := by
  by_cases hne : ps = []
  · rw [hne]
    rfl
  · rw [pieces_ofPieces hne h]

theorem exists_of_isAbsolute {p : Path} (h : p.isAbsolute = true) : ∃ r, p = ⟨'/' :: r⟩ := by
  obtain ⟨text⟩ := p
  obtain ⟨r, hr⟩ := List.head?_eq_some_iff.1 (beq_iff_eq.1 h)
  exact ⟨r, congrArg Path.mk hr⟩

theorem components_of_isAbsolute {p : Path} (h : p.isAbsolute = true) :
    p.components = .root :: meaning (pieces p.text) := by
  obtain ⟨r, rfl⟩ := exists_of_isAbsolute h
  rfl

/-! ## Joining -/

theorem isAbsolute_join {base : Path} (h : base.isAbsolute = true) (p : Path) :
    (base.join p).isAbsolute = true := by
  obtain ⟨r, rfl⟩ := exists_of_isAbsolute h
  rw [join]
  split
  next hp => exact hp
  next => split <;> rfl

theorem components_join {base p : Path} (hbase : base.isAbsolute = true)
    (hp : p.isAbsolute = false) :
    (base.join p).components = base.components ++ meaning (pieces p.text) := by
  rw [components_of_isAbsolute (isAbsolute_join hbase p), components_of_isAbsolute hbase,
    List.cons_append, List.cons.injEq]
  refine ⟨rfl, ?_⟩
  have hne : base.text.isEmpty = false := by
    obtain ⟨r, rfl⟩ := exists_of_isAbsolute hbase
    rfl
  rw [join, if_neg (by simp [hp]), hne, Bool.false_or]
  split
  next hslash =>
    -- the slash between the two is the last one of the base
    obtain ⟨front, hfront⟩ := List.getLast?_eq_some_iff.1 (beq_iff_eq.1 hslash)
    have hbaseMeaning : meaning (pieces base.text) = meaning (pieces front) := by
      rw [hfront, pieces_append_slash, meaning_append]
      exact List.append_nil _
    show meaning (pieces (base.text ++ p.text)) = _
    rw [hbaseMeaning, hfront, List.append_assoc, List.singleton_append, pieces_append_slash,
      meaning_append]
  next =>
    show meaning (pieces (base.text ++ '/' :: p.text)) = _
    rw [pieces_append_slash, meaning_append]

/-! ## Cutting off -/

theorem meaning_of_dropComponents? {cs : List Component} {ps rest : List Text}
    (h : dropComponents? cs ps = some rest) : meaning ps = cs ++ meaning rest ∧ rest <:+ ps := by
  induction ps generalizing cs with
  | nil =>
      cases cs with
      | nil =>
          obtain rfl : [] = rest := by simpa [dropComponents?] using h
          exact ⟨rfl, List.suffix_rfl⟩
      | cons c cs => exact absurd h (by simp [dropComponents?])
  | cons p r ih =>
      cases cs with
      | nil =>
          obtain rfl : p :: r = rest := by simpa [dropComponents?] using h
          exact ⟨rfl, List.suffix_rfl⟩
      | cons c cs =>
          rw [dropComponents?] at h
          cases hp : component? p with
          | none =>
              rw [hp] at h
              obtain ⟨hmeaning, hsuffix⟩ := ih h
              refine ⟨?_, hsuffix.trans (List.suffix_cons p r)⟩
              rw [meaning, List.filterMap_cons_none hp]
              exact hmeaning
          | some d =>
              simp only [hp] at h
              split at h
              next hd =>
                obtain rfl : d = c := beq_iff_eq.1 hd
                obtain ⟨hmeaning, hsuffix⟩ := ih h
                refine ⟨?_, hsuffix.trans (List.suffix_cons p r)⟩
                rw [meaning, List.filterMap_cons_some hp, List.cons_append]
                exact congrArg (d :: ·) hmeaning
              next => exact absurd h (by simp)

theorem dropEnd_isFront (ps : List Text) : dropEnd ps <+: ps := by
  rw [dropEnd, ← List.reverse_suffix, List.reverse_reverse]
  exact List.dropWhile_suffix _

theorem meaning_dropEnd (ps : List Text) : meaning (dropEnd ps) = meaning ps := by
  have hps : ps = dropEnd ps ++ (ps.reverse.takeWhile isNothing).reverse := by
    rw [dropEnd, ← List.reverse_append, List.takeWhile_append_dropWhile, List.reverse_reverse]
  have hend : meaning (ps.reverse.takeWhile isNothing).reverse = [] := by
    refine meaning_of_nothing ?_
    intro piece hm
    exact List.mem_takeWhile_imp (List.mem_reverse.1 hm)
  conv => rhs; rw [hps, meaning_append, hend, List.append_nil]

theorem meaning_dropBoth (ps : List Text) : meaning (dropBoth ps) = meaning ps := by
  have hfront : meaning (ps.takeWhile isNothing) = [] :=
    meaning_of_nothing fun _ => List.mem_takeWhile_imp
  rw [dropBoth, meaning_dropEnd]
  conv => rhs; rw [← List.takeWhile_append_dropWhile (p := isNothing) (l := ps), meaning_append,
    hfront, List.nil_append]

theorem dropBoth_subset (ps : List Text) : dropBoth ps ⊆ ps := fun _ hm =>
  (List.dropWhile_suffix _).subset ((dropEnd_isFront _).subset hm)

/-- What is left between pieces that mean nothing starts with one that does. -/
theorem isNothing_of_dropBoth_eq {ps rest : List Text} {piece : Text}
    (h : dropBoth ps = piece :: rest) : isNothing piece = false := by
  obtain ⟨more, hmore⟩ := dropEnd_isFront (ps.dropWhile isNothing)
  have hcons : ps.dropWhile isNothing = piece :: (rest ++ more) := by
    rw [← hmore, ← List.cons_append, ← h, dropBoth]
  have hhead := List.head?_dropWhile_not isNothing ps
  rw [hcons] at hhead
  simpa using hhead

/-- Pieces without empty ones in front make no absolute path. -/
theorem isAbsolute_ofPieces_dropBoth {ps : List Text} (h : ∀ piece ∈ ps, '/' ∉ piece) :
    isAbsolute ⟨ofPieces (dropBoth ps)⟩ = false := by
  rw [isAbsolute, beq_eq_false_iff_ne]
  intro hhead
  obtain ⟨t, ht⟩ : ∃ t, ofPieces (dropBoth ps) = '/' :: t := List.head?_eq_some_iff.1 hhead
  cases hb : dropBoth ps with
  | nil =>
      rw [hb] at ht
      exact absurd ht (by simp [ofPieces])
  | cons piece rest =>
      have hpieces : pieces (ofPieces (dropBoth ps)) = dropBoth ps :=
        pieces_ofPieces (by simp [hb]) fun q hq => h q (dropBoth_subset ps hq)
      rw [ht, hb] at hpieces
      obtain ⟨rfl, -⟩ : [] = piece ∧ pieces t = rest := List.cons.inj hpieces
      exact absurd (isNothing_of_dropBoth_eq hb) (by decide)

/-- A path seen from a base and joined to it is the same path. -/
theorem components_join_relativeTo {base p : Path} (hbase : base.isAbsolute = true)
    (hp : p.isAbsolute = true) :
    (base.join (p.relativeTo base)).components = p.components := by
  have hcomponents := components_of_isAbsolute hbase
  cases hstrip : p.stripPrefix? base with
  | none =>
      -- a path that does not start with the base is left as it is
      rw [relativeTo, hstrip, Option.getD_none, join, if_pos hp]
  | some rel =>
      rw [relativeTo, hstrip, Option.getD_some]
      obtain ⟨r, rfl⟩ := exists_of_isAbsolute hp
      have hparts : parts ⟨'/' :: r⟩ = (some .root, pieces r) := rfl
      rw [stripPrefix?, hcomponents, hparts] at hstrip
      simp only [beq_self_eq_true, if_true] at hstrip
      obtain ⟨rest, hdrop, hrel⟩ := Option.map_eq_some_iff.1 hstrip
      obtain ⟨hmeaning, hsuffix⟩ := meaning_of_dropComponents? hdrop
      have hslash : ∀ piece ∈ rest, '/' ∉ piece :=
        fun piece hm => not_mem_of_mem_pieces (hsuffix.subset hm)
      have hrest : meaning (pieces rel.text) = meaning rest := by
        rw [← hrel, meaning_pieces_ofPieces fun q hq => hslash q (dropBoth_subset rest hq),
          meaning_dropBoth]
      rw [components_join hbase (hrel ▸ isAbsolute_ofPieces_dropBoth hslash), hrest, hcomponents,
        List.cons_append, ← hmeaning]
      rfl

end Scaffold.Path
