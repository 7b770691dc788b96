/-
# What a merge does on its way down a file

A line is passed in one of four ways (`Pass`):

    plain     it is no ADD marker
    again     its key had a marker further up
    content   its key means nothing, or a snippet that the file holds
    served    the snippet goes beside it

There is no fifth way (`Pass.of_step`): a snippet that stands beside its marker
already is in the file, so the look at the neighbours in `State.place` never
decides (`stands_of_missing`).

A serving cuts the file beside a marker, so it takes no snippet away
(`Pass.isPresent`), and what it brings in holds no marker.  All that is known of
a finished merge is carried down the file from there by `State.run_invariant`.
-/
import Scaffold.Merge
import Scaffold.Proofs.PlainSnippets
import Scaffold.Proofs.PresenceLaws

namespace Scaffold

open Text (allBlank)
open Marker (addsOfLines addsOfLines_append isMarker)

namespace Merge

/-! ## One line -/

/-- A marker with a block on the side that it asks for. -/
def beside (line : Text) (block : Block) : Position → List Text
  | .above => block ++ [line]
  | .below => line :: block

/-- The ways to pass a line. -/
inductive Pass (S : SnippetMap) (s : State) (line : Text) (rest : List Text) : State → Prop
  | plain (hline : ∀ key p, Marker.ofLine? line ≠ some (.add key p)) :
      Pass S s line rest (s.keep line)
  | again {key : Text} {p : Position} (hline : Marker.ofLine? line = some (.add key p))
      (hold : key ∈ s.handled) : Pass S s line rest (s.keep line)
  | content {key : Text} {p : Position} (hline : Marker.ofLine? line = some (.add key p))
      (hpresent : ∀ e, S.resolve? key = some e → isPresent (s.done ++ line :: rest) e.2 = true) :
      Pass S s line rest ⟨s.done ++ [line], key :: s.handled, s.changed⟩
  | served {key : Text} {p : Position} {e : Text × Block}
      (hline : Marker.ofLine? line = some (.add key p)) (hnew : key ∉ s.handled)
      (he : S.resolve? key = some e) (hmissing : isPresent (s.done ++ line :: rest) e.2 = false) :
      Pass S s line rest
        ⟨s.done ++ beside line (e.2.indentBy (Text.indentation line)) p, key :: s.handled, true⟩

theorem isPresent_of_standsAbove {done rest : List Text} {line indent : Text} {b : Block}
    (hindent : allBlank indent = true) (h : standsAbove done (b.indentBy indent) = true) :
    isPresent (done ++ line :: rest) b = true := by
  have hcut := (List.take_append_drop (done.length - (b.indentBy indent).length) done).symm
  conv => lhs; rw [hcut, List.append_assoc]
  exact isPresent_of_sameTrimmed hindent h

theorem isPresent_of_standsBelow {done rest : List Text} {line indent : Text} {b : Block}
    (hindent : allBlank indent = true) (h : standsBelow rest (b.indentBy indent) = true) :
    isPresent (done ++ line :: rest) b = true := by
  have hcut := (List.take_append_drop (b.indentBy indent).length rest).symm
  conv => lhs; rw [hcut, List.append_cons]
  exact isPresent_of_sameTrimmed hindent h

/-- A block that is owed stands on neither side of its marker. -/
theorem stands_of_missing {done rest : List Text} {line : Text} {b : Block}
    (h : isPresent (done ++ line :: rest) b = false) :
    standsAbove done (b.indentBy (Text.indentation line)) = false ∧
      standsBelow rest (b.indentBy (Text.indentation line)) = false := by
  have hindent := Text.allBlank_indentation line
  constructor
  · refine Bool.eq_false_iff.2 ?_
    intro hstands
    rw [isPresent_of_standsAbove hindent hstands] at h
    exact Bool.noConfusion h
  · refine Bool.eq_false_iff.2 ?_
    intro hstands
    rw [isPresent_of_standsBelow hindent hstands] at h
    exact Bool.noConfusion h

/-- A block that is owed is put beside its marker. -/
theorem State.place_of_missing (s : State) {line : Text} {rest : List Text} {b : Block}
    (h : isPresent (s.done ++ line :: rest) b = false) (p : Position) :
    s.place line rest (b.indentBy (Text.indentation line)) p =
      { s with done := s.done ++ beside line (b.indentBy (Text.indentation line)) p,
               changed := true } := by
  obtain ⟨habove, hbelow⟩ := stands_of_missing h
  cases p with
  | above => rw [State.place, if_neg (Bool.eq_false_iff.1 habove), beside, List.append_assoc]
  | below => rw [State.place, if_neg (Bool.eq_false_iff.1 hbelow), beside]

variable {S : SnippetMap} {s s' : State} {line : Text} {rest : List Text}

theorem Pass.of_step (h : s.step S line rest = s') : Pass S s line rest s' := by
  subst h
  rw [State.step]
  split
  next key p hline =>
    by_cases hold : key ∈ s.handled
    · rw [if_pos (List.contains_iff_mem.2 hold)]
      exact .again hline hold
    · rw [if_neg (fun h => hold (List.contains_iff_mem.1 h))]
      cases he : S.resolve? key with
      | none =>
          simp only [owed?, he]
          exact .content hline fun e h => by rw [he] at h; exact absurd h (by simp)
      | some e =>
          cases hmissing : isPresent (s.done ++ line :: rest) e.2 with
          | true =>
              simp only [owed?, he, hmissing, if_true]
              refine .content hline ?_
              intro e' h
              obtain rfl : e = e' := by rw [he] at h; exact Option.some.inj h
              exact hmissing
          | false =>
              simp only [owed?, he, hmissing, Bool.false_eq_true, if_false]
              rw [State.place_of_missing { s with handled := key :: s.handled } hmissing]
              exact .served hline hold he hmissing
  next hother => exact .plain hother

/-- The first marker of a key gets the snippet that it means, if the file does not hold it. -/
theorem State.step_of_missing {key : Text} {p : Position} {e : Text × Block}
    (hline : Marker.ofLine? line = some (.add key p)) (hnew : key ∉ s.handled)
    (he : S.resolve? key = some e) (hmissing : isPresent (s.done ++ line :: rest) e.2 = false) :
    s.step S line rest =
      ⟨s.done ++ beside line (e.2.indentBy (Text.indentation line)) p, key :: s.handled, true⟩ := by
  have hunhandled : ¬s.handled.contains key = true := by rwa [List.contains_iff_mem]
  have howed : owed? S s.done line rest key = some (e.2.indentBy (Text.indentation line)) := by
    simp only [owed?, he, hmissing, Bool.false_eq_true, if_false]
  rw [State.step, hline]
  simp only [if_neg hunhandled, howed]
  exact State.place_of_missing { s with handled := key :: s.handled } hmissing p

/-! ## All lines -/

/-- The moments of a merge that sets out from `s₀` with the lines `ls`: the state
it comes to, and the lines that it still has to pass. -/
inductive Reached (S : SnippetMap) (s₀ : State) (ls : List Text) : State → List Text → Prop
  | start : Reached S s₀ ls s₀ ls
  | step {s : State} {line : Text} {rest : List Text} (h : Reached S s₀ ls s (line :: rest)) :
      Reached S s₀ ls (s.step S line rest) rest

/-- From each of its moments a merge comes to its end. -/
theorem Reached.run {s₀ : State} {ls : List Text} (h : Reached S s₀ ls s rest) :
    Reached S s₀ ls (s.run S rest) [] := by
  induction rest generalizing s with
  | nil => exact h
  | cons line rest ih => exact ih h.step

/-- All moments of a merge have the same end. -/
theorem Reached.run_eq {s₀ : State} {ls : List Text} (h : Reached S s₀ ls s rest) :
    s.run S rest = s₀.run S ls := by
  induction h with
  | start => rfl
  | step _ ih => exact ih

/-- What every way of passing a line preserves holds at every moment. -/
theorem Reached.invariant {s₀ : State} {ls : List Text} {P : State → List Text → Prop}
    (hstep : ∀ {s s' line rest}, P s (line :: rest) → Pass S s line rest s' → P s' rest)
    (hstart : P s₀ ls) (h : Reached S s₀ ls s rest) : P s rest := by
  induction h with
  | start => exact hstart
  | step _ ih => exact hstep ih (.of_step rfl)

theorem State.run_invariant {P : State → List Text → Prop}
    (hstep : ∀ {s s' line rest}, P s (line :: rest) → Pass S s line rest s' → P s' rest)
    {ls : List Text} (h : P s ls) : P (s.run S ls) [] :=
  Reached.start.run.invariant hstep h

/-- What was written stays written. -/
theorem Pass.done_prefix (hpass : Pass S s line rest s') : s.done <+: s'.done := by
  cases hpass with
  | plain => exact List.prefix_append _ _
  | again => exact List.prefix_append _ _
  | content => exact List.prefix_append _ _
  | served => exact List.prefix_append _ _

theorem Pass.changed (hpass : Pass S s line rest s') (h : s.changed = true) :
    s'.changed = true := by
  cases hpass with
  | plain => exact h
  | again => exact h
  | content => exact h
  | served => rfl

theorem State.done_prefix_run (s : State) (ls : List Text) : s.done <+: (s.run S ls).done :=
  State.run_invariant (P := fun s' _ => s.done <+: s'.done)
    (fun hpre hpass => hpre.trans hpass.done_prefix) (List.prefix_refl s.done)

theorem State.changed_run (h : s.changed = true) (ls : List Text) :
    (s.run S ls).changed = true :=
  State.run_invariant (P := fun s' _ => s'.changed = true) (fun hs hpass => hpass.changed hs) h

/-- The whole file at some moment of a merge. -/
def State.file (s : State) (ls : List Text) : List Text :=
  s.done ++ ls

theorem State.file_keep (s : State) (line : Text) (rest : List Text) :
    (s.keep line).file rest = s.file (line :: rest) := by
  rw [State.file, State.keep, List.append_assoc, List.singleton_append, State.file]

/-! ## The lines of the file stay -/

theorem mem_beside {l line : Text} {b : Block} {p : Position} :
    l ∈ beside line b p ↔ l = line ∨ l ∈ b := by
  cases p with
  | above => rw [beside, List.mem_append, List.mem_singleton, or_comm]
  | below => rw [beside, List.mem_cons]

theorem length_beside (line : Text) (b : Block) (p : Position) :
    (beside line b p).length = b.length + 1 := by
  cases p with
  | above => rw [beside, List.length_append, List.length_singleton]
  | below => rw [beside, List.length_cons]

theorem ne_nil_of_missing {file : List Text} {b : Block} (h : isPresent file b = false) :
    b ≠ [] := by
  rintro rfl
  exact absurd h (by simp [isPresent, Block.normalized])

/-- The file is as it was, or something was inserted and it is longer. -/
def Grown (ls : List Text) (s : State) (rest : List Text) : Prop :=
  (s.changed = false ∧ s.file rest = ls) ∨ (s.changed = true ∧ ls.length < (s.file rest).length)

theorem Grown.pass {ls : List Text} (h : Grown ls s (line :: rest)) (hpass : Pass S s line rest s') :
    Grown ls s' rest := by
  cases hpass with
  | plain hline => rwa [Grown, s.file_keep]
  | again hline hold => rwa [Grown, s.file_keep]
  | content hline hpresent => rw [Grown, ← s.file_keep] at h; exact h
  | served hline hnew he hmissing =>
      refine .inr ⟨rfl, ?_⟩
      have hpos := List.length_pos_iff.2 (ne_nil_of_missing hmissing)
      have hlength : ls.length ≤ (s.file (line :: rest)).length := by
        rcases h with ⟨-, h⟩ | ⟨-, h⟩
        · rw [h]
        · exact h.le
      simp only [State.file, List.length_append, List.length_cons, length_beside,
        Block.length_indentBy] at hlength ⊢
      omega

theorem grown_run (S : SnippetMap) (ls : List Text) : Grown ls (State.initial.run S ls) [] :=
  State.run_invariant Grown.pass (.inl ⟨rfl, rfl⟩)

/-! ## What is brought in -/

theorem filter_isMarker_beside {line : Text} {b : Block} (h : b.Plain) (p : Position) :
    (beside line b p).filter isMarker = [line].filter isMarker := by
  have hb : b.filter isMarker = [] := List.filter_eq_nil_iff.2 fun l hl => by
    rw [isMarker, h.noMarker l hl]
    exact Bool.false_ne_true
  cases p with
  | above => rw [beside, List.filter_append, hb, List.nil_append]
  | below => rw [beside, ← List.singleton_append, List.filter_append, hb, List.append_nil]

/-- The block that is put beside a marker. -/
theorem plain_served (hS : S.Plain) {key : Text} {e : Text × Block} (he : S.resolve? key = some e)
    (hnl : '\n' ∉ line) : (e.2.indentBy (Text.indentation line)).Plain :=
  (hS.of_resolve? he).indentBy (Text.allBlank_indentation line)
    fun hm => hnl ((List.takeWhile_prefix _).subset hm)

theorem getLast?_beside_ne {line : Text} {b : Block} (hline : line ≠ [])
    (hb : b.getLast? ≠ some []) (p : Position) : (beside line b p).getLast? ≠ some [] := by
  cases p with
  | above => simpa [beside] using hline
  | below =>
      rw [beside, List.getLast?_cons]
      cases hlast : b.getLast? with
      | none => simpa using hline
      | some l => simpa [hlast] using hb

theorem writable_beside {file : Lines} {a : List Text} {b : Block}
    (h : file.Writable (a ++ line :: rest)) (hline : line ≠ []) (hfeed : ∀ l ∈ b, '\n' ∉ l)
    (hb : b.getLast? ≠ some []) (p : Position) :
    file.Writable (a ++ beside line b p ++ rest) where
  noFeed l hl := by
    rw [List.append_assoc, List.mem_append, List.mem_append, mem_beside] at hl
    rcases hl with hl | (rfl | hl) | hl
    · exact h.noFeed l (List.mem_append_left _ hl)
    · exact h.noFeed l (List.mem_append_right _ List.mem_cons_self)
    · exact hfeed l hl
    · exact h.noFeed l (List.mem_append_right _ (List.mem_cons_of_mem _ hl))
  last hended := by
    have hlast := h.last hended
    cases rest with
    | nil =>
        have hne : beside line b p ≠ [] := List.ne_nil_of_mem (mem_beside.2 (.inl rfl))
        have hbeside := getLast?_beside_ne hline hb p
        rw [List.getLast?_eq_some_getLast hne] at hbeside
        rwa [List.append_nil, List.getLast?_append, List.getLast?_eq_some_getLast hne,
          Option.some_or]
    | cons x r =>
        simpa [List.getLast?_append, List.getLast?_cons] using hlast

/-- The file of a merge at every moment can be written, has the markers it had,
and all markers above the current line are those of keys that were handled. -/
structure Sound (file : Lines) (ls : List Text) (s : State) (rest : List Text) : Prop where
  writable : file.Writable (s.file rest)
  markers : (s.file rest).filter isMarker = ls.filter isMarker
  passed : ∀ m ∈ addsOfLines s.done, m.1 ∈ s.handled

theorem ne_nil_of_add {key : Text} {p : Position} (h : Marker.ofLine? line = some (.add key p)) :
    line ≠ [] := by
  rintro rfl
  exact absurd h (by simp [show Marker.ofLine? [] = none from rfl])

theorem mem_handled_of_passed {done handled : List Text} {key : Text} {p : Position}
    (hline : Marker.ofLine? line = some (.add key p))
    (h : ∀ m ∈ addsOfLines done, m.1 ∈ handled) (hkey : key ∈ handled) :
    ∀ m ∈ addsOfLines (done ++ [line]), m.1 ∈ handled := by
  intro m hm
  rw [addsOfLines_append, Marker.addsOfLines_cons_of_add hline] at hm
  rcases List.mem_append.1 hm with hm | hm
  · exact h m hm
  · obtain rfl := List.mem_singleton.1 hm
    exact hkey

theorem Sound.pass (hS : S.Plain) {file : Lines} {ls : List Text}
    (h : Sound file ls s (line :: rest)) (hpass : Pass S s line rest s') :
    Sound file ls s' rest := by
  obtain ⟨hwritable, hmarkers, hpassed⟩ := h
  cases hpass with
  | plain hline =>
      refine ⟨by rwa [s.file_keep], by rwa [s.file_keep], ?_⟩
      intro m hm
      refine hpassed m ?_
      rw [State.keep, addsOfLines_append, Marker.addsOfLines_cons_of_other hline] at hm
      exact (List.mem_append.1 hm).resolve_right List.not_mem_nil
  | again hline hold =>
      exact ⟨by rwa [s.file_keep], by rwa [s.file_keep], mem_handled_of_passed hline hpassed hold⟩
  | content hline hpresent =>
      rw [← s.file_keep] at hwritable hmarkers
      exact ⟨hwritable, hmarkers, mem_handled_of_passed hline
        (fun m hm => List.mem_cons_of_mem _ (hpassed m hm)) List.mem_cons_self⟩
  | served hline hnew he hmissing =>
      have hb := plain_served hS he (hwritable.noFeed line
        (List.mem_append_right _ List.mem_cons_self))
      refine ⟨writable_beside hwritable (ne_nil_of_add hline) hb.noFeed hb.last _, ?_, ?_⟩
      · rw [← hmarkers]
        simp only [State.file, List.filter_append, filter_isMarker_beside hb]
        rw [List.append_assoc, ← List.filter_append, List.singleton_append]
      · have := mem_handled_of_passed hline
          (fun m hm => List.mem_cons_of_mem _ (hpassed m hm)) List.mem_cons_self
        rw [addsOfLines_append] at this ⊢
        rwa [Marker.addsOfLines_of_filter_eq (filter_isMarker_beside hb _)]

/-! ## Snippets stay and are delivered -/

/-- A snippet of the template that is in the file stays in it. -/
theorem Pass.isPresent (hS : S.Plain) (hpass : Pass S s line rest s') {b : Block} (hb : b.Plain)
    (h : isPresent (s.file (line :: rest)) b = true) : isPresent (s'.file rest) b = true := by
  cases hpass with
  | plain hline => rwa [s.file_keep]
  | again hline hold => rwa [s.file_keep]
  | content hline hpresent => rwa [← s.file_keep] at h
  | served hline hnew he hmissing =>
      have hink := Marker.allBlank_of_isMarker (Marker.isMarker_of_ofLine? hline)
      have hcut := hb.collapse_notMem hline (hS.allBlank_of_resolve? he)
      refine isPresent_of_cut hink hcut ?_ ?_ ?_ h
      · exact ⟨[], _, by rw [State.file, List.nil_append, List.append_assoc]⟩
      · exact ⟨_, [], by rw [State.file, List.append_nil]⟩
      · exact List.mem_append_left _ (List.mem_append_right _ (mem_beside.2 (.inl rfl)))

/-- A snippet that was put beside a line is in the file. -/
theorem isPresent_beside (a : List Text) (line : Text) (b : Block) (p : Position)
    (rest : List Text) :
    isPresent (a ++ beside line (b.indentBy (Text.indentation line)) p ++ rest) b = true := by
  have hwritten := Block.written_indentBy (Text.allBlank_indentation line) b
  cases p with
  | above =>
      simp only [beside, List.append_assoc]
      exact isPresent_of_written hwritten
  | below =>
      simp only [beside]
      rw [List.append_assoc, List.cons_append, List.append_cons]
      exact isPresent_of_written hwritten

/-- The snippets that the handled keys mean are in the file. -/
def Delivered (S : SnippetMap) (s : State) (rest : List Text) : Prop :=
  ∀ key ∈ s.handled, ∀ e, S.resolve? key = some e → isPresent (s.file rest) e.2 = true

theorem Delivered.pass (hS : S.Plain) (h : Delivered S s (line :: rest))
    (hpass : Pass S s line rest s') : Delivered S s' rest := by
  have hstays : ∀ {key e}, key ∈ s.handled → S.resolve? key = some e →
      isPresent (s'.file rest) e.2 = true := fun hkey he =>
    hpass.isPresent hS (hS.of_resolve? he) (h _ hkey _ he)
  cases hpass with
  | plain hline =>
      intro key hkey e he
      exact hstays hkey he
  | again hline hold =>
      intro key hkey e he
      exact hstays hkey he
  | content hline hpresent =>
      intro key hkey e he
      rcases List.mem_cons.1 hkey with rfl | hkey
      · have := hpresent e he
        rwa [← State.file, ← s.file_keep] at this
      · exact hstays hkey he
  | served hline hnew he' hmissing =>
      intro key hkey e he
      rcases List.mem_cons.1 hkey with rfl | hkey
      · obtain rfl := Option.some.inj (he'.symm.trans he)
        exact isPresent_beside _ _ _ _ _
      · exact hstays hkey he

end Merge

end Scaffold
