/-
# Which entry a key means, by rank

The entries of a snippet map answer a key in one of four ways, and each way
outranks those below it:

    same        the entry has the very key
    equal       the two keys have one normal form
    containing  the normal form of the entry's key contains the wanted one
    contained   it is contained in the wanted one

An empty normal form answers nothing but the very key.  Of several entries of
the highest rank the first is meant, except that among those that contain the
wanted one the shortest comes before the first.

`SnippetMap.Meant` says this of the places in the map, without any search, and
it is what `SnippetMap.resolve?` finds (`SnippetMap.resolve?_follows_ranks`).
-/
import Scaffold.Snippet.Key
import Scaffold.Proofs.PresenceLaws

namespace Scaffold

/-! ## The first member of a kind -/

section First

variable {α : Type}

/-- The first member of the list with the property. -/
def IsFirst (p : α → Prop) (l : List α) (a : α) : Prop :=
  ∃ before after, l = before ++ a :: after ∧ p a ∧ ∀ b ∈ before, ¬ p b

/-- The member with the least value of `f` among those with the property, and
the first of several. -/
def IsFirstLeast (p : α → Prop) (f : α → Nat) (l : List α) (a : α) : Prop :=
  ∃ before after, l = before ++ a :: after ∧ p a ∧
    (∀ b ∈ before, p b → f a < f b) ∧ ∀ b ∈ after, p b → f a ≤ f b

variable {p : α → Prop} {f : α → Nat} {l : List α} {a c : α}

theorem IsFirst.mem (h : IsFirst p l a) : a ∈ l := by
  obtain ⟨before, after, rfl, -, -⟩ := h
  exact List.mem_append_right _ List.mem_cons_self

theorem IsFirst.prop (h : IsFirst p l a) : p a := by
  obtain ⟨before, after, -, ha, -⟩ := h
  exact ha

theorem IsFirstLeast.mem (h : IsFirstLeast p f l a) : a ∈ l := by
  obtain ⟨before, after, rfl, -, -, -⟩ := h
  exact List.mem_append_right _ List.mem_cons_self

theorem IsFirstLeast.prop (h : IsFirstLeast p f l a) : p a := by
  obtain ⟨before, after, -, ha, -, -⟩ := h
  exact ha

theorem IsFirstLeast.le (h : IsFirstLeast p f l a) {b : α} (hb : b ∈ l) (hp : p b) : f a ≤ f b := by
  obtain ⟨before, after, rfl, -, hbefore, hafter⟩ := h
  rcases List.mem_append.1 hb with hb | hb
  · exact Nat.le_of_lt (hbefore b hb hp)
  · rcases List.mem_cons.1 hb with rfl | hb
    · exact Nat.le_refl _
    · exact hafter b hb hp

theorem isFirstLeast_cons_iff :
    IsFirstLeast p f (c :: l) a ↔
      (a = c ∧ p c ∧ ∀ b ∈ l, p b → f c ≤ f b) ∨
        (IsFirstLeast p f l a ∧ (p c → f a < f c)) := by
  constructor
  · rintro ⟨before, after, hl, ha, hbefore, hafter⟩
    cases before with
    | nil =>
        obtain ⟨rfl, rfl⟩ := List.cons.inj hl
        exact .inl ⟨rfl, ha, hafter⟩
    | cons b r =>
        obtain ⟨rfl, rfl⟩ := List.cons.inj hl
        refine .inr ⟨⟨r, after, rfl, ha, ?_, hafter⟩, hbefore c List.mem_cons_self⟩
        exact fun b hb => hbefore b (List.mem_cons_of_mem _ hb)
  · rintro (⟨rfl, ha, hrest⟩ | ⟨⟨before, after, rfl, ha, hbefore, hafter⟩, hc⟩)
    · exact ⟨[], l, rfl, ha, fun b hb => absurd hb List.not_mem_nil, hrest⟩
    · refine ⟨c :: before, after, rfl, ha, ?_, hafter⟩
      intro b hb
      rcases List.mem_cons.1 hb with rfl | hb
      · exact hc
      · exact hbefore b hb

/-! ## The searches -/

variable {q : α → Bool} (hq : ∀ b, q b = true ↔ p b)
include hq

theorem find?_eq_none_iff_of : l.find? q = none ↔ ∀ b ∈ l, ¬ p b := by
  simp only [List.find?_eq_none, hq]

theorem find?_eq_some_iff_of : l.find? q = some a ↔ IsFirst p l a := by
  simp only [List.find?_eq_some_iff_append, Bool.not_eq_true', ← Bool.not_eq_true, hq]
  constructor
  · rintro ⟨ha, before, after, hl, hbefore⟩
    exact ⟨before, after, hl, ha, hbefore⟩
  · rintro ⟨before, after, hl, ha, hbefore⟩
    exact ⟨ha, before, after, hl, hbefore⟩

theorem firstLeast?_eq_none_iff_of :
    Key.firstLeast? f (l.filter q) = none ↔ ∀ b ∈ l, ¬ p b := by
  simp only [Key.firstLeast?_eq_none, List.filter_eq_nil_iff, hq]

theorem firstLeast?_eq_some_iff_of :
    Key.firstLeast? f (l.filter q) = some a ↔ IsFirstLeast p f l a := by
  induction l generalizing a with
  | nil =>
      constructor
      · intro h
        exact absurd h (by simp [Key.firstLeast?])
      · intro h
        exact absurd h.mem List.not_mem_nil
  | cons c r ih =>
      rw [isFirstLeast_cons_iff]
      by_cases hc : p c
      · rw [List.filter_cons_of_pos ((hq c).2 hc), Key.firstLeast?]
        cases hrest : Key.firstLeast? f (r.filter q) with
        | none =>
            have hnone := (firstLeast?_eq_none_iff_of hq).1 hrest
            constructor
            · intro h
              obtain rfl := Option.some.inj h
              exact .inl ⟨rfl, hc, fun b hb hp => absurd hp (hnone b hb)⟩
            · rintro (⟨rfl, -⟩ | ⟨h, -⟩)
              · rfl
              · exact absurd h.prop (hnone a h.mem)
        | some b =>
            have hb := ih.1 hrest
            have honly : IsFirstLeast p f r a → b = a := by
              intro h
              exact Option.some.inj (hrest.symm.trans (ih.2 h))
            dsimp only
            split
            next hlt =>
              constructor
              · intro h
                obtain rfl := Option.some.inj h
                exact .inr ⟨hb, fun _ => hlt⟩
              · rintro (⟨rfl, -, hle⟩ | ⟨h, -⟩)
                · exact absurd hlt (Nat.not_lt.2 (hle b hb.mem hb.prop))
                · rw [honly h]
            next hge =>
              constructor
              · intro h
                obtain rfl := Option.some.inj h
                exact .inl ⟨rfl, hc, fun d hd hp => (Nat.not_lt.1 hge).trans (hb.le hd hp)⟩
              · rintro (⟨rfl, -⟩ | ⟨h, hlt⟩)
                · rfl
                · exact absurd (honly h ▸ hlt hc) hge
      · rw [List.filter_cons_of_neg fun h => hc ((hq c).1 h), ih]
        constructor
        · intro h
          exact .inr ⟨h, fun hp => absurd hp hc⟩
        · rintro (⟨-, hp, -⟩ | ⟨h, -⟩)
          · exact absurd hp hc
          · exact h

end First

/-! ## Four ranks -/

namespace Key

variable (key : Text) (e : Text × Block)

/-- Both keys have letters or digits to compare. -/
def Comparable : Prop :=
  normalize key ≠ [] ∧ normalize e.1 ≠ []

/-- The entry's key is the wanted one up to its spelling. -/
def Equal : Prop :=
  Comparable key e ∧ normalize e.1 = normalize key

/-- The entry's key contains the wanted one. -/
def Containing : Prop :=
  Comparable key e ∧ normalize key <:+: normalize e.1

/-- The entry's key is contained in the wanted one. -/
def Contained : Prop :=
  Comparable key e ∧ normalize e.1 <:+: normalize key

/-- The length of an entry's key in its normal form, in bytes. -/
def normalSize : Nat :=
  Text.byteSize (normalize e.1)

end Key

namespace SnippetMap

open Key (Comparable Equal Containing Contained normalSize)

/-- The entry that a key means: of the highest rank that any entry has, the
first, or else the shortest. -/
inductive Meant (m : SnippetMap) (key : Text) (e : Text × Block) : Prop
  | same (h : IsFirst (fun d => d.1 = key) m.entries e)
  | equal (hnone : ∀ d ∈ m.entries, d.1 ≠ key)
      (h : IsFirst (Equal key) m.entries e)
  | containing (hnone : ∀ d ∈ m.entries, d.1 ≠ key ∧ ¬ Equal key d)
      (h : IsFirstLeast (Containing key) normalSize m.entries e)
  | contained (hnone : ∀ d ∈ m.entries, d.1 ≠ key ∧ ¬ Equal key d ∧ ¬ Containing key d)
      (h : IsFirst (Contained key) m.entries e)

variable {m : SnippetMap} {key : Text} {e : Text × Block}

theorem resolveNormal?_eq (m : SnippetMap) (target : Text) :
    m.resolveNormal? target =
      (m.entries.find? fun d => !(Key.normalize d.1).isEmpty && Key.normalize d.1 == target).or
        ((Key.firstLeast? normalSize (m.entries.filter fun d =>
            Text.hasRun target (Key.normalize d.1) && !(Key.normalize d.1).isEmpty)).or
          (m.entries.find? fun d =>
            !(Key.normalize d.1).isEmpty && Text.hasRun (Key.normalize d.1) target)) := by
  simp only [resolveNormal?, List.find?_filter, List.filter_filter, Bool.decide_and,
    Bool.decide_eq_true]
  rfl

section Comparable

variable (hkey : Key.normalize key ≠ []) (d : Text × Block)
include hkey

theorem isEqual_iff :
    (!(Key.normalize d.1).isEmpty && Key.normalize d.1 == Key.normalize key) = true ↔
      Equal key d := by
  simp [Equal, Comparable, hkey]

theorem isContaining_iff :
    (Text.hasRun (Key.normalize key) (Key.normalize d.1) && !(Key.normalize d.1).isEmpty) = true ↔
      Containing key d := by
  simp [Containing, Comparable, hkey, Text.hasRun_iff_infix, and_comm]

theorem isContained_iff :
    (!(Key.normalize d.1).isEmpty && Text.hasRun (Key.normalize d.1) (Key.normalize key)) = true ↔
      Contained key d := by
  simp [Contained, Comparable, hkey, Text.hasRun_iff_infix]

omit d

/-- The three lower ranks in turn, for a key that can be compared. -/
theorem resolveNormal?_eq_some_iff :
    m.resolveNormal? (Key.normalize key) = some e ↔
      IsFirst (Equal key) m.entries e ∨ (∀ d ∈ m.entries, ¬ Equal key d) ∧
        (IsFirstLeast (Containing key) normalSize m.entries e ∨
          (∀ d ∈ m.entries, ¬ Containing key d) ∧ IsFirst (Contained key) m.entries e) := by
  rw [resolveNormal?_eq, Option.or_eq_some_iff, Option.or_eq_some_iff,
    find?_eq_some_iff_of (isEqual_iff hkey), find?_eq_none_iff_of (isEqual_iff hkey),
    firstLeast?_eq_some_iff_of (isContaining_iff hkey),
    firstLeast?_eq_none_iff_of (isContaining_iff hkey),
    find?_eq_some_iff_of (isContained_iff hkey)]

theorem resolveNormal?_eq_none_iff :
    m.resolveNormal? (Key.normalize key) = none ↔
      ∀ d ∈ m.entries, ¬ Equal key d ∧ ¬ Containing key d ∧ ¬ Contained key d := by
  rw [resolveNormal?_eq, Option.or_eq_none_iff, Option.or_eq_none_iff,
    find?_eq_none_iff_of (isEqual_iff hkey), firstLeast?_eq_none_iff_of (isContaining_iff hkey),
    find?_eq_none_iff_of (isContained_iff hkey)]
  exact ⟨fun h d hd => ⟨h.1 d hd, h.2.1 d hd, h.2.2 d hd⟩, fun h =>
    ⟨fun d hd => (h d hd).1, fun d hd => (h d hd).2.1, fun d hd => (h d hd).2.2⟩⟩

end Comparable

theorem find?_eq_some_iff : m.find? key = some e ↔ IsFirst (fun d => d.1 = key) m.entries e :=
  find?_eq_some_iff_of fun _ => beq_iff_eq

theorem find?_eq_none_iff : m.find? key = none ↔ ∀ d ∈ m.entries, d.1 ≠ key :=
  find?_eq_none_iff_of fun _ => beq_iff_eq

theorem not_isFirst_same (hnone : ∀ d ∈ m.entries, d.1 ≠ key) :
    ¬ IsFirst (fun d => d.1 = key) m.entries e :=
  fun h => hnone e h.mem h.prop

/-- Where no entry has the very key, the lower ranks decide. -/
theorem meant_iff_of_other (hnone : ∀ d ∈ m.entries, d.1 ≠ key) :
    m.Meant key e ↔
      IsFirst (Equal key) m.entries e ∨ (∀ d ∈ m.entries, ¬ Equal key d) ∧
        (IsFirstLeast (Containing key) normalSize m.entries e ∨
          (∀ d ∈ m.entries, ¬ Containing key d) ∧ IsFirst (Contained key) m.entries e) := by
  constructor
  · intro h
    cases h with
    | same h => exact absurd h (not_isFirst_same hnone)
    | equal _ h => exact .inl h
    | containing hno h => exact .inr ⟨fun d hd => (hno d hd).2, .inl h⟩
    | contained hno h =>
        exact .inr ⟨fun d hd => (hno d hd).2.1, .inr ⟨fun d hd => (hno d hd).2.2, h⟩⟩
  · rintro (h | ⟨hequal, h | ⟨hcontaining, h⟩⟩)
    · exact .equal hnone h
    · exact .containing (fun d hd => ⟨hnone d hd, hequal d hd⟩) h
    · exact .contained (fun d hd => ⟨hnone d hd, hequal d hd, hcontaining d hd⟩) h

/-- The very key outranks all spellings. -/
theorem meant_iff_of_same {d : Text × Block} (hd : IsFirst (fun d => d.1 = key) m.entries d) :
    m.Meant key e ↔ d = e := by
  constructor
  · intro h
    cases h with
    | same h => exact Option.some.inj ((find?_eq_some_iff.2 hd).symm.trans (find?_eq_some_iff.2 h))
    | equal hno h => exact absurd hd.prop (hno d hd.mem)
    | containing hno h => exact absurd hd.prop (hno d hd.mem).1
    | contained hno h => exact absurd hd.prop (hno d hd.mem).1
  · rintro rfl
    exact .same hd

/-- A key means the entry that its ranks single out, and nothing exactly if no
entry has any of the ranks. -/
theorem resolve?_follows_ranks (m : SnippetMap) (key : Text) :
    (∀ e, m.resolve? key = some e ↔ m.Meant key e) ∧
      (m.resolve? key = none ↔ ∀ d ∈ m.entries,
        d.1 ≠ key ∧ ¬ Equal key d ∧ ¬ Containing key d ∧ ¬ Contained key d) := by
  rw [resolve?]
  cases hfind : m.find? key with
  | some d =>
      have hd := find?_eq_some_iff.1 hfind
      refine ⟨fun e => ?_, ?_⟩
      · rw [meant_iff_of_same hd, Option.some.injEq]
      · constructor
        · intro h
          exact absurd h (by simp)
        · intro h
          exact absurd hd.prop (h d hd.mem).1
  | none =>
      have hnone := find?_eq_none_iff.1 hfind
      simp only [List.isEmpty_iff]
      split
      next hempty =>
        have hrank : ∀ d, ¬ Comparable key d := fun d h => h.1 hempty
        refine ⟨fun e => ?_, ?_⟩
        · rw [meant_iff_of_other hnone]
          constructor
          · intro h
            exact absurd h (by simp)
          · rintro (h | ⟨-, h | ⟨-, h⟩⟩) <;> exact absurd h.prop.1 (hrank e)
        · refine iff_of_true rfl fun d hd => ⟨hnone d hd, ?_, ?_, ?_⟩ <;>
            exact fun h => hrank d h.1
      next hkey =>
        refine ⟨fun e => ?_, ?_⟩
        · rw [meant_iff_of_other hnone, resolveNormal?_eq_some_iff hkey]
        · rw [resolveNormal?_eq_none_iff hkey]
          exact ⟨fun h d hd => ⟨hnone d hd, h d hd⟩, fun h d hd => (h d hd).2⟩

/-- Of two keys that contain the wanted one the shorter is meant, though it
stands behind the other; the very key is meant wherever it stands. -/
example :
    let m : SnippetMap :=
      ⟨[("a foo bars".toList, []), ("FOO BARS".toList, []), ("bar".toList, [])]⟩
    m.resolve? "Foo-Bar".toList = some ("FOO BARS".toList, []) ∧
      m.resolve? "bar".toList = some ("bar".toList, []) := by
  decide +kernel

end SnippetMap

end Scaffold
