/-
# Where the snippets of a template come from

Every snippet is the dedented body of a block.  Its key stands on a START line
of the template, and its body is a run of the lines that are no markers
(`exists_source`): an ADD marker within the block parts two lines of the
template, but no two lines of that list.  No two snippets have one key
(`nodup_keys_ofText`).
-/
import Mathlib.Data.List.Nodup
import Scaffold.Snippet

namespace Scaffold

open Marker (isMarker ofLine?)

/-- The lines that are no markers. -/
def Marker.unmarked (ls : List Text) : List Text :=
  ls.filter fun l => !isMarker l

theorem Marker.unmarked_concat_of_marker {line : Text} {m : Marker} (h : ofLine? line = some m)
    (ls : List Text) : unmarked (ls ++ [line]) = unmarked ls := by
  simp [unmarked, isMarker, h]

theorem Marker.unmarked_concat_of_none {line : Text} (h : ofLine? line = none) (ls : List Text) :
    unmarked (ls ++ [line]) = unmarked ls ++ [line] := by
  simp [unmarked, isMarker, h]

namespace SnippetMap

variable {m : SnippetMap} {key : Text} {b : Block}

theorem mem_insertNew {e : Text × Block} (h : e ∈ (m.insertNew key b).entries) :
    e ∈ m.entries ∨ e = (key, b) := by
  rw [insertNew] at h
  split at h
  · exact .inl h
  · exact (List.mem_append.1 h).imp_right List.mem_singleton.1

theorem not_mem_keys_of_find? (h : m.find? key = none) : key ∉ m.keys := by
  intro hm
  obtain ⟨e, he, rfl⟩ := List.mem_map.1 hm
  exact List.find?_eq_none.1 h e he (beq_self_eq_true e.1)

theorem keys_insertNew (m : SnippetMap) (key : Text) (b : Block) :
    (m.insertNew key b).keys = if key ∈ m.keys then m.keys else m.keys ++ [key] := by
  rw [insertNew]
  cases hfind : m.find? key with
  | none =>
      rw [if_neg (not_mem_keys_of_find? hfind), keys, List.map_append]
      rfl
  | some e =>
      have hkey : e.1 = key := by simpa using List.find?_some hfind
      rw [if_pos (hkey ▸ List.mem_map_of_mem (List.mem_of_find?_eq_some hfind))]

theorem nodup_keys_insertNew (h : m.keys.Nodup) (key : Text) (b : Block) :
    (m.insertNew key b).keys.Nodup := by
  rw [keys_insertNew]
  split
  next => exact h
  next hnew => simpa using h.concat hnew

theorem get?_insertNew (m : SnippetMap) (key : Text) (b : Block) (wanted : Text) :
    (m.insertNew key b).get? wanted =
      (m.get? wanted).or (if wanted == key then some b else none) := by
  rw [insertNew]
  cases hfind : m.find? key with
  | none =>
      rw [get?, get?, find?, find?, List.find?_append, Option.map_or, List.find?_singleton,
        BEq.comm]
      cases wanted == key <;> simp
  | some e =>
      cases hkey : wanted == key with
      | false => rw [if_neg (by simp), Option.or_none]
      | true =>
          obtain rfl : wanted = key := by simpa using hkey
          rw [get?, hfind]
          rfl

/-- Every entry is the one that is found under its key. -/
theorem find?_of_mem (h : m.keys.Nodup) {e : Text × Block} (he : e ∈ m.entries) :
    m.find? e.1 = some e := by
  cases hfind : m.find? e.1 with
  | none => exact absurd (List.mem_map_of_mem he) (not_mem_keys_of_find? hfind)
  | some e' =>
      have hkey : e'.1 = e.1 := by simpa using List.find?_some hfind
      rw [List.inj_on_of_nodup_map h (List.mem_of_find?_eq_some hfind) he hkey]

end SnippetMap

namespace Extraction

/-- A START line with this key is among the lines. -/
def StartedIn (seen : List Text) (key : Text) : Prop :=
  ∃ line ∈ seen, ofLine? line = some (.start key)

/-- A template is read up to some line, and `seen` are the lines so far: what
was said above of the finished snippets, while the body of the open block still
stands at the end. -/
structure State.Sourced (s : State) (seen : List Text) : Prop where
  snippets : ∀ e ∈ s.snippets.entries, StartedIn seen e.1 ∧
    ∃ body, e.2 = Block.dedent body ∧ body <:+: Marker.unmarked seen
  opened : ∀ key body, s.open? = some (key, body) → StartedIn seen key ∧
    body <:+ Marker.unmarked seen
  nodup : s.snippets.keys.Nodup

variable {s : State} {seen : List Text} {line : Text}

theorem StartedIn.concat {key : Text} (h : StartedIn seen key) (line : Text) :
    StartedIn (seen ++ [line]) key := by
  obtain ⟨l, hl, hm⟩ := h
  exact ⟨l, List.mem_append_left _ hl, hm⟩

theorem State.open?_close (s : State) : s.close.open? = none := by
  rw [State.close]
  split
  next hopen => exact hopen
  next => rfl

theorem State.Sourced.close (h : s.Sourced seen) : s.close.Sourced seen := by
  refine ⟨?_, ?_, ?_⟩
  · rw [State.close]
    split
    next => exact h.snippets
    next key body hopen =>
      obtain ⟨hstart, hbody⟩ := h.opened key body hopen
      intro e he
      rcases SnippetMap.mem_insertNew he with he | rfl
      · exact h.snippets e he
      · exact ⟨hstart, body, rfl, hbody.isInfix⟩
  · intro key body hopen
    rw [s.open?_close] at hopen
    exact absurd hopen (by simp)
  · rw [State.close]
    split
    · exact h.nodup
    · exact SnippetMap.nodup_keys_insertNew h.nodup _ _

/-- The finished snippets are not touched by a line to come. -/
theorem State.Sourced.snippets_concat (h : s.Sourced seen) (line : Text) :
    ∀ e ∈ s.snippets.entries, StartedIn (seen ++ [line]) e.1 ∧
      ∃ body, e.2 = Block.dedent body ∧ body <:+: Marker.unmarked (seen ++ [line]) := by
  intro e he
  obtain ⟨hstart, body, hdedent, hrun⟩ := h.snippets e he
  refine ⟨hstart.concat line, body, hdedent, ?_⟩
  rw [Marker.unmarked, List.filter_append]
  exact hrun.trans (List.prefix_append _ _).isInfix

theorem State.Sourced.step (h : s.Sourced seen) (line : Text) :
    (s.step line).Sourced (seen ++ [line]) := by
  rw [State.step]
  split
  next key hm =>
    refine ⟨h.close.snippets_concat line, ?_, h.close.nodup⟩
    intro k body hopen
    obtain ⟨rfl, rfl⟩ : key = k ∧ [] = body := by simpa using hopen
    exact ⟨⟨line, List.mem_append_right _ List.mem_cons_self, hm⟩, List.nil_suffix⟩
  next key hm =>
    refine ⟨h.close.snippets_concat line, ?_, h.close.nodup⟩
    intro k body hopen
    rw [s.open?_close] at hopen
    exact absurd hopen (by simp)
  next key p hm =>
    refine ⟨h.snippets_concat line, ?_, h.nodup⟩
    intro k body hopen
    obtain ⟨hstart, hbody⟩ := h.opened k body hopen
    -- the marker is neither in the body nor among the lines that the body ends
    exact ⟨hstart.concat line, by rwa [Marker.unmarked_concat_of_marker hm]⟩
  next hm =>
    split
    next key body hopen =>
      refine ⟨h.snippets_concat line, ?_, h.nodup⟩
      intro k b hb
      obtain ⟨rfl, rfl⟩ : key = k ∧ body ++ [line] = b := by simpa using hb
      obtain ⟨hstart, front, hfront⟩ := h.opened key body hopen
      refine ⟨hstart.concat line, front, ?_⟩
      rw [Marker.unmarked_concat_of_none hm, ← hfront, List.append_assoc]
    next hopen =>
      refine ⟨h.snippets_concat line, ?_, h.nodup⟩
      intro k b hb
      exact absurd hb (by simp [hopen])

theorem sourced_foldl (ls : List Text) (h : s.Sourced seen) :
    (ls.foldl State.step s).Sourced (seen ++ ls) := by
  induction ls generalizing s seen with
  | nil => simpa using h
  | cons line rest ih =>
      have := ih (h.step line)
      rwa [List.append_assoc, List.singleton_append] at this

theorem sourced_scan (ls : List Text) : (scan ls).Sourced ls := by
  have hinitial : State.initial.Sourced [] := by
    refine ⟨fun e he => absurd he List.not_mem_nil, ?_, List.nodup_nil⟩
    intro key body hopen
    exact absurd hopen (by simp [State.initial])
  exact (sourced_foldl ls hinitial).close

end Extraction

namespace SnippetMap

variable {template : Text}

theorem exists_source {e : Text × Block} (he : e ∈ (ofText template).entries) :
    (∃ line ∈ template.lines, ofLine? line = some (.start e.1)) ∧
      ∃ body, e.2 = Block.dedent body ∧ body <:+: Marker.unmarked template.lines :=
  (Extraction.sourced_scan template.lines).snippets e he

theorem nodup_keys_ofText (template : Text) : (ofText template).keys.Nodup :=
  (Extraction.sourced_scan template.lines).nodup

end SnippetMap

end Scaffold
