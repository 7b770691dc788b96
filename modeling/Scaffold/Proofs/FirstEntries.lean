/-
# Which entries of the list of schema types are kept

The list opens on the first line that holds `export const schemaTypes … = [`, and it
goes on as long as some bracket of it is open.  The level of a line is counted over
all lines between the two:

    export const schemaTypes = [
      post,                       1   stays
      group([                     1   stays, no lone name
        post,                     2   stays
      ]),                         2   stays
      post                        1   goes
    ].concat([                    1   stays
      post,                       1   goes: the list is open still
    ])                            1   stays
    post,                         0   stays: behind the list

The pass leaves repeated entries out as it comes to them and counts over what it
keeps.  It counts the same, since a lone name holds no bracket (`next_of_entryName?`),
so where it stands is what the lines above say (`placeBelow`), and what it has seen
are the names of the entries above (`SeenEntries`).
-/
import Mathlib.Data.List.Infix
import Scaffold.Proofs.BlockGrammar
import Scaffold.Proofs.CleanFiles

namespace Scaffold

/-! ## The first of a kind -/

namespace Extraction

theorem withBefore_append (before a b : List Text) :
    withBefore before (a ++ b) = withBefore before a ++ withBefore (before ++ a) b := by
  induction a generalizing before with
  | nil => simp [withBefore]
  | cons line rest ih =>
      rw [List.cons_append, withBefore, ih, withBefore, List.append_assoc, List.singleton_append,
        List.cons_append]

/-- Of the lines of a kind exactly the first has none of them above it. -/
theorem filter_none_before (P : List Text × Text → Bool) (before ls : List Text) :
    ((withBefore before ls).filter fun p => P p && !(withBefore [] p.1).any P) =
      if (withBefore [] before).any P then [] else ((withBefore before ls).find? P).toList := by
  induction ls generalizing before with
  | nil => simp [withBefore]
  | cons line rest ih =>
      have habove : withBefore [] (before ++ [line]) = withBefore [] before ++ [(before, line)] :=
        withBefore_append [] before [line]
      rw [withBefore, List.filter_cons, ih, habove, List.any_append, List.find?_cons]
      cases hP : P (before, line) <;> cases hseen : (withBefore [] before).any P <;> simp [hP]

end Extraction

namespace Dedupe

open Extraction (filter_none_before map_filter_withBefore_cons withBefore withBefore_append)

/-! ## Levels -/

/-- The brackets open behind some lines, with `opened` of them open in front. -/
def level (opened : Int) (before : List Text) : Int :=
  opened + bracketBalance before.flatten

/-- Whether a bracket is open in front of all these lines, behind each of them and so
behind the last. -/
def staysOpen (opened : Int) (before : List Text) : Bool :=
  before.inits.all fun b => decide (0 < level opened b)

/-- The name that a line on the top level of the list holds and nothing else; it comes
with the lines of the list above it. -/
def entryOf? (opened : Int) (p : List Text × Text) : Option Text :=
  if staysOpen opened p.1 && level opened p.1 == 1 then LineKind.loneName? p.2 else none

def isEntry (opened : Int) (name : Text) (p : List Text × Text) : Bool :=
  entryOf? opened p == some name

/-- Whether a line is an entry that stands above it already. -/
def repeatsEntry (opened : Int) (p : List Text × Text) : Bool :=
  (entryOf? opened p).any fun name => (withBefore [] p.1).any (isEntry opened name)

/-- The lines that do not repeat an entry, if `before` stands before them. -/
def notRepeatedEntries (opened : Int) (before ls : List Text) : List Text :=
  ((withBefore before ls).filter fun p => !repeatsEntry opened p).map (·.2)

variable {opened : Int} {seen before : List Text} {line name : Text}

theorem staysOpen_concat (opened : Int) (before : List Text) (line : Text) :
    staysOpen opened (before ++ [line]) =
      (staysOpen opened before && decide (0 < level opened (before ++ [line]))) := by
  simp [staysOpen, List.inits_append]

theorem level_nil (opened : Int) : level opened [] = opened :=
  Int.add_zero opened

theorem level_concat (opened : Int) (before : List Text) (line : Text) :
    level opened (before ++ [line]) = level opened before + bracketBalance line := by
  simp [level, bracketBalance_append, Int.add_assoc]

/-! ## Lone names -/

theorem bracketBalance_of_name {t : Text} (h : ∀ c ∈ t, LineKind.isNamePart c = true) :
    bracketBalance t = 0 := by
  induction t with
  | nil => rfl
  | cons c r ih =>
      have hc := h c List.mem_cons_self
      have hopen : c ≠ '[' := by
        rintro rfl
        exact absurd hc (by decide +kernel)
      have hclose : c ≠ ']' := by
        rintro rfl
        exact absurd hc (by decide +kernel)
      simp [bracketBalance, hopen, hclose, ih fun d hd => h d (List.mem_cons_of_mem c hd)]

theorem isNamePart_of_isNameStart {c : Char} (h : LineKind.isNameStart c = true) :
    LineKind.isNamePart c = true := by
  simp only [LineKind.isNameStart, Bool.or_eq_true, Bool.and_eq_true, decide_eq_true_eq,
    beq_iff_eq] at h
  rw [LineKind.isNamePart, Bool.or_eq_true, beq_iff_eq]
  rcases h with (⟨hascii, hletter⟩ | rfl) | hdollar
  · exact .inl (by simp [Unicode.isWord, hascii, Char.isAlphanum, hletter])
  · exact .inl (by decide)
  · exact .inr hdollar

theorem append_of_name? {t word rest : Text} (h : LineKind.name? t = some (word, rest)) :
    t = word ++ rest ∧ ∀ c ∈ word, LineKind.isNamePart c = true := by
  cases t with
  | nil => exact absurd h (by simp [LineKind.name?])
  | cons c r =>
      rw [LineKind.name?] at h
      split at h
      next hstart =>
        obtain ⟨rfl, rfl⟩ := Prod.mk.inj (Option.some.inj h)
        refine ⟨by rw [List.cons_append, List.takeWhile_append_dropWhile], ?_⟩
        intro d hd
        rcases List.mem_cons.1 hd with rfl | hd
        · exact isNamePart_of_isNameStart hstart
        · exact List.mem_takeWhile_imp hd
      next => exact absurd h (by simp)

/-- A lone name holds no bracket. -/
theorem bracketBalance_of_loneName? (h : LineKind.loneName? line = some name) :
    bracketBalance line = 0 := by
  rw [LineKind.loneName?_eq] at h
  obtain ⟨⟨word, rest⟩, hword, hrest⟩ := Option.bind_eq_some_iff.1 h
  have hbehind : bracketBalance rest = 0 := by
    split at hrest
    next hcond =>
      rcases Bool.or_eq_true_iff.1 hcond with hblank | hcomma
      · exact bracketBalance_of_blank hblank
      · rw [← ignoresBlanks_bracketBalance.trim rest, beq_iff_eq.1 hcomma]
        rfl
    next => exact absurd hrest (by simp)
  obtain ⟨hline, hparts⟩ := append_of_name? hword
  rw [← Text.indentation_append_trimLeft line, bracketBalance_append,
    bracketBalance_of_blank (Text.allBlank_indentation line), hline, bracketBalance_append,
    bracketBalance_of_name hparts, hbehind]
  rfl

/-! ## Where the pass stands -/

/-- Where a line stands that has these lines of the list above it. -/
def placeBelow (opened : Int) (before : List Text) : Place :=
  if staysOpen opened before then .inside (level opened before) else .behind

theorem placeBelow_nil (opened : Int) : placeBelow opened [] = .atLevel opened := by
  simp [placeBelow, staysOpen, level_nil, Place.atLevel]

theorem next_placeBelow (opened : Int) (before : List Text) (line : Text) :
    (placeBelow opened before).next line = placeBelow opened (before ++ [line]) := by
  rw [placeBelow, placeBelow, staysOpen_concat]
  cases staysOpen opened before with
  | false => rfl
  | true => simp [Place.next, Place.atLevel, level_concat]

theorem entryName?_placeBelow (opened : Int) (before : List Text) (line : Text) :
    entryName? (placeBelow opened before) line = entryOf? opened (before, line) := by
  rw [placeBelow, entryOf?]
  cases staysOpen opened before <;> rfl

theorem next_of_entryName? {place : Place} (h : entryName? place line = some name) :
    place.next line = place := by
  cases place with
  | before => exact absurd h (by simp [entryName?])
  | behind => rfl
  | inside n =>
      rw [entryName?] at h
      split at h
      next hone =>
        obtain rfl : n = 1 := beq_iff_eq.1 hone
        rw [Place.next, bracketBalance_of_loneName? h]
        rfl
      next => exact absurd h (by simp)

/-- The names seen are those of the entries above. -/
def SeenEntries (opened : Int) (seen before : List Text) : Prop :=
  ∀ name, name ∈ seen ↔ (withBefore [] before).any (isEntry opened name) = true

theorem any_isEntry_concat (opened : Int) (name : Text) (before : List Text) (line : Text) :
    (withBefore [] (before ++ [line])).any (isEntry opened name) =
      ((withBefore [] before).any (isEntry opened name) || isEntry opened name (before, line)) := by
  rw [withBefore_append, List.any_append]
  simp [withBefore]

theorem SeenEntries.other (h : SeenEntries opened seen before)
    (hother : entryOf? opened (before, line) = none) :
    SeenEntries opened seen (before ++ [line]) := by
  intro name
  rw [h name, any_isEntry_concat, isEntry, hother]
  simp

theorem SeenEntries.again (h : SeenEntries opened seen before)
    (hentry : entryOf? opened (before, line) = some name) (hseen : name ∈ seen) :
    SeenEntries opened seen (before ++ [line]) := by
  intro other
  rw [any_isEntry_concat, Bool.or_eq_true, ← h other, isEntry, hentry]
  constructor
  · exact .inl
  · rintro (hother | hsame)
    · exact hother
    · obtain rfl : name = other := by simpa using hsame
      exact hseen

theorem SeenEntries.new (h : SeenEntries opened seen before)
    (hentry : entryOf? opened (before, line) = some name) :
    SeenEntries opened (name :: seen) (before ++ [line]) := by
  intro other
  rw [any_isEntry_concat, Bool.or_eq_true, ← h other, isEntry, hentry, beq_iff_eq, Option.some_inj,
    List.mem_cons, or_comm]
  exact or_congr_right eq_comm

/-! ## All lines of the list -/

theorem notRepeatedEntries_cons (opened : Int) (before : List Text) (line : Text)
    (rest : List Text) :
    notRepeatedEntries opened before (line :: rest) =
      (if repeatsEntry opened (before, line) then [] else [line]) ++
        notRepeatedEntries opened (before ++ [line]) rest := by
  rw [notRepeatedEntries, map_filter_withBefore_cons, notRepeatedEntries]
  cases repeatsEntry opened (before, line) <;> rfl

/-- The pass keeps the lines that do not repeat an entry. -/
theorem distinctEntries_placeBelow (h : SeenEntries opened seen before) (ls : List Text) :
    distinctEntries (placeBelow opened before) seen ls = notRepeatedEntries opened before ls := by
  induction ls generalizing seen before with
  | nil => rfl
  | cons line rest ih =>
      rw [notRepeatedEntries_cons, distinctEntries, entryName?_placeBelow, repeatsEntry]
      cases hentry : entryOf? opened (before, line) with
      | none =>
          rw [Option.any_none, next_placeBelow, ih (h.other hentry)]
          rfl
      | some name =>
          have hname := (entryName?_placeBelow opened before line).trans hentry
          have hplace := next_of_entryName? hname
          rw [Option.any_some, hplace]
          rw [next_placeBelow] at hplace
          by_cases hseen : name ∈ seen
          · have hrest := ih (h.again hentry hseen)
            rw [hplace] at hrest
            rw [(h name).1 hseen, ← hrest]
            exact if_pos (List.contains_iff_mem.2 hseen)
          · have hrest := ih (h.new hentry)
            rw [hplace] at hrest
            rw [Bool.eq_false_iff.2 (mt (h name).2 hseen), ← hrest]
            exact if_neg (mt List.contains_iff_mem.1 hseen)

/-! ## The file -/

/-- The lines above the first list. -/
def aboveList (ls : List Text) : List Text :=
  ls.takeWhile fun l => (listOpening? l).isNone

/-- The lines of the file from the first list on. -/
def fromList (ls : List Text) : List Text :=
  ls.dropWhile fun l => (listOpening? l).isNone

/-- The brackets that a line leaves open, from the bracket of the list on. -/
def openedBy (line : Text) : Int :=
  (listOpening? line).elim 0 bracketBalance

/-- The lines that do not repeat an entry of the first list. -/
def withoutRepeats (ls : List Text) : List Text :=
  aboveList ls ++
    match fromList ls with
    | [] => []
    | line :: rest => line :: notRepeatedEntries (openedBy line) [] rest

theorem aboveList_append_fromList (ls : List Text) : aboveList ls ++ fromList ls = ls :=
  List.takeWhile_append_dropWhile

theorem seenEntries_nil (opened : Int) : SeenEntries opened [] [] := fun name => by
  simp [withBefore]

theorem distinctEntries_before (ls : List Text) :
    distinctEntries .before [] ls = withoutRepeats ls := by
  induction ls with
  | nil => rfl
  | cons line rest ih =>
      have hnone : entryName? .before line = none := rfl
      rw [distinctEntries, hnone]
      cases hopening : listOpening? line with
      | none =>
          have hplace : Place.before.next line = .before := by rw [Place.next, hopening]
          simp only [hplace, ih]
          simp [withoutRepeats, aboveList, fromList, hopening]
      | some opening =>
          have hplace : Place.before.next line = placeBelow (bracketBalance opening) [] := by
            rw [Place.next, hopening, placeBelow_nil]
          simp only [hplace, distinctEntries_placeBelow (seenEntries_nil _)]
          simp [withoutRepeats, aboveList, fromList, openedBy, hopening]

/-- No entry is found in lines behind which the list is closed. -/
theorem notRepeatedEntries_of_closed (h : staysOpen opened before = false) (ls : List Text) :
    notRepeatedEntries opened before ls = ls := by
  induction ls generalizing before with
  | nil => rfl
  | cons line rest ih =>
      have hclosed : staysOpen opened (before ++ [line]) = false := by
        rw [staysOpen_concat, h, Bool.false_and]
      have hother : repeatsEntry opened (before, line) = false := by
        rw [repeatsEntry, entryOf?, h]
        rfl
      rw [notRepeatedEntries_cons, hother, ih hclosed]
      rfl

theorem notRepeatedEntries_append (opened : Int) (before a b : List Text) :
    notRepeatedEntries opened before (a ++ b) =
      notRepeatedEntries opened before a ++ notRepeatedEntries opened (before ++ a) b := by
  rw [notRepeatedEntries, withBefore_append, List.filter_append, List.map_append]
  rfl

theorem filter_isEntry (opened : Int) (name : Text) (ls : List Text) :
    ((withBefore [] ls).filter fun p => isEntry opened name p && !repeatsEntry opened p) =
      ((withBefore [] ls).find? (isEntry opened name)).toList := by
  have hfirst := filter_none_before (isEntry opened name) [] ls
  rw [withBefore, List.any_nil, if_neg Bool.false_ne_true] at hfirst
  rw [← hfirst]
  refine List.filter_congr fun p _ => ?_
  cases hentry : isEntry opened name p with
  | false => rfl
  | true => rw [repeatsEntry, beq_iff_eq.1 hentry, Option.any_some]

/-- Behind the line that opens the first list the pass leaves out the entries that stand
above already and no other line; what stays is written in the manner of the file, which
is not touched if nothing goes.  So a list that its opening line closes again is left as
it is, of the entries of one name exactly the first is kept, and from where the list is
closed on every line stays. -/
theorem schemaTypes_keeps_first (content : Text) :
    let ls := content.lines
    let kept := withoutRepeats ls
    schemaTypes content =
        (if kept = ls then .same content else .edited ((Lines.ofText content).render kept)) ∧
      ∀ line rest, fromList ls = line :: rest →
        (openedBy line ≤ 0 → kept = ls) ∧
        (∀ name, ((withBefore [] rest).filter fun p =>
            isEntry (openedBy line) name p && !repeatsEntry (openedBy line) p) =
          ((withBefore [] rest).find? (isEntry (openedBy line) name)).toList) ∧
        ∀ list behind, rest = list ++ behind → staysOpen (openedBy line) list = false →
          kept = aboveList ls ++ line :: notRepeatedEntries (openedBy line) [] list ++ behind := by
  intro ls kept
  have hkept : distinctEntries .before [] ls = kept := distinctEntries_before ls
  refine ⟨?_, ?_⟩
  · have hsublist := distinctEntries_sublist .before [] ls
    rw [schemaTypes, rejoin, Lines.lines_ofText]
    refine if_congr ?_ rfl (by rw [hkept])
    rw [beq_iff_eq, ← hkept]
    exact ⟨hsublist.eq_of_length, congrArg List.length⟩
  · intro line rest hfrom
    have hsplit : kept = aboveList ls ++ line :: notRepeatedEntries (openedBy line) [] rest := by
      simp only [kept, withoutRepeats, hfrom]
    refine ⟨fun hclosed => ?_, fun name => filter_isEntry _ name rest, ?_⟩
    · have hopen : staysOpen (openedBy line) [] = false := by
        simpa [staysOpen, level_nil] using hclosed
      rw [hsplit, notRepeatedEntries_of_closed hopen, ← hfrom, aboveList_append_fromList]
    · rintro list behind rfl hclosed
      rw [hsplit, notRepeatedEntries_append, List.nil_append, notRepeatedEntries_of_closed hclosed,
        List.append_assoc, List.cons_append]

example :
    schemaTypes ("export const schemaTypes = [\n  a,\n  g([\n    a,\n  ]),\n  a\n].concat([\n" ++
        "  a,\n])\na,\n").toList =
      .edited ("export const schemaTypes = [\n  a,\n  g([\n    a,\n  ]),\n].concat([\n" ++
        "])\na,\n").toList := by
  decide +kernel

end Dedupe

end Scaffold
