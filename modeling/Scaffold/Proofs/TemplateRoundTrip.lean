/-
# Written templates are read back

A value *spells* something for a reader if its text is readable and the reader
finds it in the draft, wherever the value may still nest as deep as it does
(`Spells`).  Each part of a template is spelled by what it is written as: an
edit of every kind, a node with all that is below it, a group, and the template
itself.  The text of a template of at most 127 levels is therefore read as that
template, and so are its bytes (`fromJson_render`).

Members are read one by one, and each reader is followed by one lemma for each
member that a writer writes.  What is not written is not followed: the forms
without names, and members that come twice or are unknown.
-/
import Scaffold.Proofs.JsonRoundTrip
import Scaffold.Proofs.Utf8Laws
import Scaffold.Template.Document

namespace Scaffold

open Json (Draft Flaw Fault Error itemDrafts memberDrafts)

/-! ## Values that spell something -/

namespace Json

/-- A reader finds `a` in a value, be it given as text or as a draft. -/
structure Spells {α : Type} (read : Nat → Draft → Except Error α) (a : α) (v : Json) : Prop where
  readable : Readable v
  draft : ∀ level, v.depth < level → read level v.toDraft = .ok a

variable {α : Type} {level : Nat}

theorem enter_of_lt {n : Nat} (h : n + 1 < level) : enter level = .ok (level - 1) := by
  rw [enter, if_neg (by omega)]

theorem memberName_ok (t : Text) : memberName (.ok t) = .ok t := rfl

theorem once_of_none {value : Option α} (h : value = none) (name : Text) :
    Json.once value name = .ok () := by
  rw [h]
  rfl

theorem toDraft_text (t : Text) : (Json.text t).toDraft = .text t := rfl

theorem toDraft_bool (b : Bool) : (Json.bool b).toDraft = .bool b := rfl

theorem memberDrafts_append (ms ns : List (Text × Json)) :
    memberDrafts (ms ++ ns) = memberDrafts ms ++ memberDrafts ns := by
  induction ms with
  | nil => rfl
  | cons m r ih => rw [List.cons_append, memberDrafts, memberDrafts, ih, List.cons_append]

theorem depthMembers_append (ms ns : List (Text × Json)) :
    depthMembers (ms ++ ns) = max (depthMembers ms) (depthMembers ns) := by
  induction ms with
  | nil => simp [depthMembers]
  | cons m r ih => rw [List.cons_append, depthMembers, depthMembers, ih, Nat.max_assoc]

theorem readEach_itemDrafts {item : Draft → Except Error α} {write : α → Json} {as : List α}
    (h : ∀ a ∈ as, item (write a).toDraft = .ok a) :
    readEach item (itemDrafts (as.map write)) none = .ok as := by
  induction as with
  | nil => rfl
  | cons a r ih =>
      have hrest := ih fun b hb => h b (List.mem_cons_of_mem _ hb)
      simp only [List.map_cons, itemDrafts, readEach, h a List.mem_cons_self, hrest, bind,
        Except.bind, pure, Except.pure]

theorem depth_le_depthItems {v : Json} {items : List Json} (hv : v ∈ items) :
    v.depth ≤ depthItems items := by
  induction items with
  | nil => cases hv
  | cons w r ih =>
      rw [depthItems]
      cases hv with
      | head => omega
      | tail _ hr =>
          have := ih hr
          omega

theorem spells_array {read : Nat → Draft → Except Error α} {write : α → Json} {as : List α}
    (h : ∀ a ∈ as, Spells read a (write a)) :
    Spells (fun level d => readArray level read d) as (.array (as.map write)) where
  readable := by
    refine readable_array ?_
    intro v hv
    obtain ⟨a, ha, rfl⟩ := List.mem_map.1 hv
    exact (h a ha).readable
  draft level hlevel := by
    rw [depth] at hlevel
    have hread : readEach (read (level - 1)) (itemDrafts (as.map write)) none = .ok as := by
      refine readEach_itemDrafts ?_
      intro a ha
      have hdepth := depth_le_depthItems (List.mem_map_of_mem (f := write) ha)
      exact (h a ha).draft (level - 1) (by omega)
    simp only [toDraft, readArray, enter_of_lt hlevel, hread, bind, Except.bind]

/-- The text of a value of at most 127 levels is read as what the value spells. -/
theorem Spells.readText_render {read : Nat → Draft → Except Error α} {a : α} {v : Json}
    (h : Spells read a v) (hdepth : v.depth ≤ 127) : readText read v.render = .ok a := by
  have hread := h.draft 128 (by omega)
  simp only [readText, readDocument_render h.readable, hread, bind, Except.bind]
  rfl

end Json

open Json (Spells enter_of_lt memberName_ok once_of_none toDraft_text toDraft_bool)

/-! ## Edits -/

namespace Edit

open Json (Whole)

theorem Field.name_injective {f g : Field} (h : f.name = g.name) : f = g := by
  revert h
  cases f <;> cases g <;> decide

theorem Field.name_ne_typeName (f : Field) : f.name ≠ typeName := by
  cases f <;> decide

theorem Kind.ofName_name (k : Kind) : Kind.ofName k.name = .ok k := by
  cases k <;> rfl

/-- The members of an edit with the texts that they hold. -/
def entries : Edit → List (Field × Option Text)
  | insertBeforeLine a | insertAfterLine a | insertBeforeInline a | insertAfterInline a
  | addMarkerAboveTarget a | addMarkerBelowTarget a =>
    [(.target, a.target), (.key, a.key), (.occurrence, occurrenceName a.occurrence)]
  | replaceBetweenAnchors r =>
    [(.start, r.start), (.stop, r.stop), (.key, r.key),
      (.occurrence, occurrenceName r.occurrence), (.requireAbsent, r.requireAbsent)]
  | conditionalReplace r =>
    [(.target, r.target), (.replacement, r.replacement),
      (.occurrence, occurrenceName r.occurrence), (.requireAbsent, r.requireAbsent)]

theorem members_eq_entries (e : Edit) :
    e.members = e.entries.map fun m => (m.1.name, optionalText m.2) := by
  cases e <;> rfl

/-- A text or nothing, read whole. -/
def wholeOf : Option Text → Whole
  | none => .null
  | some t => .text t

theorem whole_optionalText (level : Nat) (t : Option Text) :
    (optionalText t).toDraft.whole level = .ok (wholeOf t) := by
  cases t <;> rfl

theorem readMembers_type (level : Nat) (kind : Kind) (r : List (Except Flaw Text × Draft))
    (stop : Option Fault) :
    readMembers level none ((.ok typeName, .text kind.name) :: r) stop =
      readMembers level (some kind) r stop := by
  have hkind : readKind (.text kind.name) = .ok kind := by
    simp only [readKind, Draft.expectText, Kind.ofName_name, bind, Except.bind]
    rfl
  simp only [readMembers, memberName_ok, hkind, bind, Except.bind]
  rfl

theorem readMembers_entries (level : Nat) (kind : Kind) (ms : List (Field × Option Text)) :
    readMembers level (some kind)
        (memberDrafts (ms.map fun m => (m.1.name, optionalText m.2))) none =
      .ok (some kind, ms.map fun m => (.text m.1.name, wholeOf m.2)) := by
  induction ms with
  | nil => rfl
  | cons m r ih =>
      have hname : (m.1.name == typeName) = false := by simp [m.1.name_ne_typeName]
      simp only [List.map_cons, memberDrafts, readMembers, memberName_ok, hname,
        whole_optionalText, ih, bind, Except.bind, pure, Except.pure]
      rfl

/-! ### From members to the edit -/

theorem fieldOf_name {shape : List Field} {f : Field} (hf : f ∈ shape) :
    fieldOf shape (.text f.name) = .ok (some f) := by
  have hfind : (shape.find? fun g => g.name == f.name) = some f := by
    induction shape with
    | nil => cases hf
    | cons g r ih =>
        by_cases hname : g.name = f.name
        · rw [List.find?_cons_of_pos (by simpa using hname), Field.name_injective hname]
        · rw [List.find?_cons_of_neg (by simpa using hname)]
          refine ih ((List.mem_cons.1 hf).resolve_left ?_)
          rintro rfl
          exact hname rfl
  rw [fieldOf, hfind]

/-- One member more of an object. -/
theorem ofMembers_cons {shape : List Field} {fs fs' : Fields} {f : Field} {v : Whole}
    (hf : f ∈ shape) (hnew : fs.has f = false) (hread : fs.read f v = .ok fs')
    (r : List (Whole × Whole)) :
    Fields.ofMembers shape fs ((.text f.name, v) :: r) = Fields.ofMembers shape fs' r := by
  simp only [Fields.ofMembers, fieldOf_name hf, hnew, hread, bind, Except.bind]
  rfl

theorem Fields.read_occurrence (fs : Fields) (o : Occurrence) :
    fs.read .occurrence (wholeOf (occurrenceName o)) = .ok { fs with occurrence := some o } := by
  cases o <;> rfl

theorem Fields.read_requireAbsent (fs : Fields) (t : Option Text) :
    fs.read .requireAbsent (wholeOf t) = .ok { fs with requireAbsent := some t } := by
  cases t <;> rfl

theorem ofMembers_anchor (a : Anchor) :
    Fields.ofMembers [.target, .key, .occurrence] {}
        [(.text Field.target.name, wholeOf a.target), (.text Field.key.name, wholeOf a.key),
          (.text Field.occurrence.name, wholeOf (occurrenceName a.occurrence))] =
      .ok { target := some a.target, key := some a.key, occurrence := some a.occurrence } := by
  rw [ofMembers_cons (by decide) rfl rfl, ofMembers_cons (by decide) rfl rfl,
    ofMembers_cons (by decide) rfl (Fields.read_occurrence _ _)]
  rfl

theorem ofMembers_range (r : AnchorRange) :
    Fields.ofMembers [.start, .stop, .key, .occurrence, .requireAbsent] {}
        [(.text Field.start.name, wholeOf r.start), (.text Field.stop.name, wholeOf r.stop),
          (.text Field.key.name, wholeOf r.key),
          (.text Field.occurrence.name, wholeOf (occurrenceName r.occurrence)),
          (.text Field.requireAbsent.name, wholeOf r.requireAbsent)] =
      .ok { start := some r.start, stop := some r.stop, key := some r.key,
            occurrence := some r.occurrence, requireAbsent := some r.requireAbsent } := by
  rw [ofMembers_cons (by decide) rfl rfl, ofMembers_cons (by decide) rfl rfl,
    ofMembers_cons (by decide) rfl rfl,
    ofMembers_cons (by decide) rfl (Fields.read_occurrence _ _),
    ofMembers_cons (by decide) rfl (Fields.read_requireAbsent _ _)]
  rfl

theorem ofMembers_replacement (r : Replacement) :
    Fields.ofMembers [.target, .replacement, .occurrence, .requireAbsent] {}
        [(.text Field.target.name, wholeOf r.target),
          (.text Field.replacement.name, wholeOf r.replacement),
          (.text Field.occurrence.name, wholeOf (occurrenceName r.occurrence)),
          (.text Field.requireAbsent.name, wholeOf r.requireAbsent)] =
      .ok { target := some r.target, replacement := some r.replacement,
            occurrence := some r.occurrence, requireAbsent := some r.requireAbsent } := by
  rw [ofMembers_cons (by decide) rfl rfl, ofMembers_cons (by decide) rfl rfl,
    ofMembers_cons (by decide) rfl (Fields.read_occurrence _ _),
    ofMembers_cons (by decide) rfl (Fields.read_requireAbsent _ _)]
  rfl

/-- The members of an edit give the edit. -/
theorem ofMembers_entries (e : Edit) :
    ofMembers e.kind (e.entries.map fun m => (.text m.1.name, wholeOf m.2)) = .ok e := by
  cases e with
  | replaceBetweenAnchors r =>
      simp only [ofMembers, entries, List.map_cons, List.map_nil, kind, Kind.fields,
        ofMembers_range]
      rfl
  | conditionalReplace r =>
      simp only [ofMembers, entries, List.map_cons, List.map_nil, kind, Kind.fields,
        ofMembers_replacement]
      rfl
  | insertBeforeLine a | insertAfterLine a | insertBeforeInline a | insertAfterInline a
  | addMarkerAboveTarget a | addMarkerBelowTarget a =>
      simp only [ofMembers, entries, List.map_cons, List.map_nil, kind, Kind.fields,
        ofMembers_anchor]
      rfl

theorem readable_optionalText (t : Option Text) : Json.Readable (optionalText t) := by
  cases t with
  | none => exact Json.readable_null
  | some t => exact Json.readable_text t

theorem spells_toJson (e : Edit) : Spells Edit.fromDraft e e.toJson where
  readable := by
    refine Json.readable_object ?_
    rw [members_eq_entries]
    intro m hm
    obtain rfl | hm := List.mem_cons.1 hm
    · exact Json.readable_text _
    · obtain ⟨entry, -, rfl⟩ := List.mem_map.1 hm
      exact readable_optionalText entry.2
  draft level hlevel := by
    rw [toJson, Json.depth] at hlevel
    have hread := readMembers_entries (level - 1) e.kind e.entries
    rw [← members_eq_entries] at hread
    simp only [toJson, Json.toDraft, memberDrafts, fromDraft, enter_of_lt hlevel,
      readMembers_type, hread, ofMembers_entries, liftMismatch, bind, Except.bind]
    rfl

end Edit

/-! ## Nodes -/

namespace Node

variable {level : Nat} {p : Node.Partial} (r : List (Except Flaw Text × Draft))
  (stop : Option Fault)

theorem readMembers_name (hnew : p.name = none) (t : Text) :
    Node.readMembers level p ((.ok "name".toList, .text t) :: r) stop =
      Node.readMembers level { p with name := some t } r stop := by
  rw [Node.readMembers]
  simp only [memberName_ok, bind, Except.bind]
  rw [if_pos (by decide), once_of_none hnew]
  rfl

theorem readMembers_code (hnew : p.code = none) (t : Text) :
    Node.readMembers level p ((.ok "code".toList, .text t) :: r) stop =
      Node.readMembers level { p with code := some t } r stop := by
  rw [Node.readMembers]
  simp only [memberName_ok, bind, Except.bind]
  rw [if_neg (by decide), if_pos (by decide), once_of_none hnew]
  rfl

theorem readMembers_isIndexer (hnew : p.isIndexer = none) (b : Bool) :
    Node.readMembers level p ((.ok "isIndexer".toList, .bool b) :: r) stop =
      Node.readMembers level { p with isIndexer := some b } r stop := by
  rw [Node.readMembers]
  simp only [memberName_ok, bind, Except.bind]
  rw [if_neg (by decide), if_neg (by decide), if_pos (by decide), once_of_none hnew]
  rfl

theorem readMembers_children (hnew : p.children = none) {d : Draft} {ns : List Node}
    (hd : Node.readChildren level d = .ok ns) :
    Node.readMembers level p ((.ok "children".toList, d) :: r) stop =
      Node.readMembers level { p with children := some ns } r stop := by
  rw [Node.readMembers]
  simp only [memberName_ok, bind, Except.bind]
  rw [if_neg (by decide), if_neg (by decide), if_neg (by decide), if_pos (by decide),
    once_of_none hnew, hd]

theorem readMembers_insertions (hnew : p.insertions = none) {d : Draft} {es : List Edit}
    (hd : Json.readArray level Edit.fromDraft d = .ok es) :
    Node.readMembers level p ((.ok "insertions".toList, d) :: r) stop =
      Node.readMembers level { p with insertions := some es } r stop := by
  rw [Node.readMembers]
  simp only [memberName_ok, bind, Except.bind]
  rw [if_neg (by decide), if_neg (by decide), if_neg (by decide), if_neg (by decide),
    if_pos (by decide), once_of_none hnew, hd]

theorem toJsons_eq_map (ns : List Node) : Node.toJsons ns = ns.map Node.toJson := by
  induction ns with
  | nil => rfl
  | cons n r ih => rw [Node.toJsons, ih, List.map_cons]

theorem fromDrafts_eq_readEach (level : Nat) (items : List Draft) (stop : Option Fault) :
    Node.fromDrafts level items stop = Json.readEach (Node.fromDraft level) items stop := by
  induction items with
  | nil => rfl
  | cons d r ih => rw [Node.fromDrafts, Json.readEach, ih]

theorem readChildren_eq_readArray (level : Nat) (d : Draft) :
    Node.readChildren level d = Json.readArray level Node.fromDraft d := by
  cases d with
  | array items stop =>
      rw [Node.readChildren, Json.readArray]
      simp only [fromDrafts_eq_readEach]
  | _ => rfl

/-- What a node is written as, its edits apart. -/
def plainMembers (n : Node) : List (Text × Json) := [
  ("name".toList, .text n.name),
  ("code".toList, .text n.code),
  ("isIndexer".toList, .bool n.isIndexer),
  ("children".toList, .array (n.children.map Node.toJson))]

/-- What the edits of a node are written as. -/
def editMembers (n : Node) : List (Text × Json) :=
  if n.insertions.isEmpty then []
  else [("insertions".toList, .array (n.insertions.map Edit.toJson))]

theorem toJson_eq_members (n : Node) : n.toJson = .object (n.plainMembers ++ n.editMembers) := by
  obtain ⟨name, code, isIndexer, children, insertions⟩ := n
  rw [Node.toJson, toJsons_eq_map]
  rfl

theorem readMembers_plainMembers {n : Node}
    (h : ∀ child ∈ n.children, Spells Node.fromDraft child child.toJson)
    (hlevel : Json.depthMembers n.plainMembers < level) :
    Node.readMembers level {} (memberDrafts n.plainMembers ++ r) stop =
      Node.readMembers level ⟨some n.name, some n.code, some n.isIndexer, some n.children, none⟩ r
        stop := by
  have hchildren : Node.readChildren level (Json.array (n.children.map Node.toJson)).toDraft =
      .ok n.children := by
    rw [readChildren_eq_readArray]
    refine (Json.spells_array h).draft level ?_
    simpa [plainMembers, Json.depthMembers, Json.depth] using hlevel
  simp only [plainMembers, memberDrafts, List.cons_append, List.nil_append, toDraft_text,
    toDraft_bool]
  rw [readMembers_name _ _ rfl, readMembers_code _ _ rfl, readMembers_isIndexer _ _ rfl,
    readMembers_children _ _ rfl hchildren]

theorem readMembers_editMembers {n : Node} (hnew : p.insertions = none)
    (hlevel : Json.depthMembers n.editMembers < level) :
    ∃ insertions, insertions.getD [] = n.insertions ∧
      Node.readMembers level p (memberDrafts n.editMembers) none =
        .ok { p with insertions := insertions } := by
  cases hinsertions : n.insertions with
  | nil =>
      refine ⟨none, rfl, ?_⟩
      rw [← hnew, editMembers, hinsertions]
      rfl
  | cons e es =>
      have hmembers : n.editMembers =
          [("insertions".toList, .array ((e :: es).map Edit.toJson))] := by
        rw [editMembers, hinsertions]
        rfl
      have hedits := Json.spells_array fun e' (_ : e' ∈ e :: es) => e'.spells_toJson
      rw [hmembers] at hlevel ⊢
      have hread := hedits.draft level (by simpa [Json.depthMembers] using hlevel)
      refine ⟨some (e :: es), rfl, ?_⟩
      rw [memberDrafts, readMembers_insertions _ _ hnew hread]
      rfl

theorem readable_of_mem_members {n : Node}
    (h : ∀ child ∈ n.children, Spells Node.fromDraft child child.toJson) :
    ∀ m ∈ n.plainMembers ++ n.editMembers, Json.Readable m.2 := by
  intro m hm
  rcases List.mem_append.1 hm with hm | hm
  · simp only [plainMembers, List.mem_cons, List.not_mem_nil, or_false] at hm
    rcases hm with rfl | rfl | rfl | rfl
    · exact Json.readable_text _
    · exact Json.readable_text _
    · exact Json.readable_bool _
    · exact (Json.spells_array h).readable
  · rw [editMembers] at hm
    split at hm
    · cases hm
    · obtain rfl := List.mem_singleton.1 hm
      exact (Json.spells_array fun e (_ : e ∈ n.insertions) => e.spells_toJson).readable

theorem spells_toJson_of_children {n : Node}
    (h : ∀ child ∈ n.children, Spells Node.fromDraft child child.toJson) :
    Spells Node.fromDraft n n.toJson where
  readable := by
    rw [toJson_eq_members]
    exact Json.readable_object (readable_of_mem_members h)
  draft level hlevel := by
    rw [toJson_eq_members, Json.depth] at hlevel
    have henter := enter_of_lt hlevel
    rw [Json.depthMembers_append] at hlevel
    have hplain := readMembers_plainMembers (memberDrafts n.editMembers) none h
      (show Json.depthMembers n.plainMembers < level - 1 by omega)
    let p : Node.Partial := ⟨some n.name, some n.code, some n.isIndexer, some n.children, none⟩
    obtain ⟨insertions, hinsertions, hedits⟩ := readMembers_editMembers (p := p) rfl
      (show Json.depthMembers n.editMembers < level - 1 by omega)
    rw [toJson_eq_members, Json.toDraft, Node.fromDraft, henter, Json.memberDrafts_append]
    simp only [bind, Except.bind, hplain]
    rw [hedits]
    simp only [p, Node.Partial.node?, Option.map_some, Option.getD_some, hinsertions]
    cases n
    rfl

mutual

theorem spells_toJson : ∀ n : Node, Spells Node.fromDraft n n.toJson
  | ⟨_, _, _, children, _⟩ => spells_toJson_of_children (spells_toJson_of_mem children)

theorem spells_toJson_of_mem : ∀ ns : List Node, ∀ n ∈ ns, Spells Node.fromDraft n n.toJson
  | n :: _, _, .head _ => spells_toJson n
  | _ :: r, n, .tail _ hn => spells_toJson_of_mem r n hn

end

end Node

/-! ## Groups and templates -/

namespace PathGroup

variable {level : Nat} (r : List (Except Flaw Text × Draft)) (stop : Option Fault)

theorem readMembers_path (t : Text) (nodes : Option (List Node)) :
    PathGroup.readMembers level none nodes ((.ok "path".toList, .text t) :: r) stop =
      PathGroup.readMembers level (some t) nodes r stop := by
  rw [PathGroup.readMembers]
  simp only [memberName_ok, bind, Except.bind]
  rw [if_pos (by decide), once_of_none rfl]
  rfl

theorem readMembers_nodes {d : Draft} {ns : List Node} (path : Option Text)
    (hd : Json.readArray level Node.fromDraft d = .ok ns) :
    PathGroup.readMembers level path none ((.ok "nodes".toList, d) :: r) stop =
      PathGroup.readMembers level path (some ns) r stop := by
  rw [PathGroup.readMembers]
  simp only [memberName_ok, bind, Except.bind]
  rw [if_neg (by decide), if_pos (by decide), once_of_none rfl, hd]

theorem spells_toJson (g : PathGroup) : Spells PathGroup.fromDraft g g.toJson := by
  have hnodes := Json.spells_array fun n (_ : n ∈ g.nodes) => n.spells_toJson
  rw [← Node.toJsons_eq_map] at hnodes
  constructor
  · refine Json.readable_object ?_
    intro m hm
    simp only [List.mem_cons, List.not_mem_nil, or_false] at hm
    rcases hm with rfl | rfl
    · exact Json.readable_text g.path
    · exact hnodes.readable
  · intro level hlevel
    rw [PathGroup.toJson, Json.depth] at hlevel
    have hread := hnodes.draft (level - 1) (by simp [Json.depthMembers] at hlevel; omega)
    rw [PathGroup.toJson, Json.toDraft, PathGroup.fromDraft, enter_of_lt hlevel]
    simp only [memberDrafts, toDraft_text, bind, Except.bind]
    rw [readMembers_path, readMembers_nodes _ _ _ hread]
    rfl

end PathGroup

namespace Template

theorem readMembers_filePaths {level : Nat} {d : Draft} {gs : List PathGroup}
    (hd : Json.readArray level PathGroup.fromDraft d = .ok gs)
    (r : List (Except Flaw Text × Draft)) (stop : Option Fault) :
    Template.readMembers level none ((.ok "filePaths".toList, d) :: r) stop =
      Template.readMembers level (some gs) r stop := by
  rw [Template.readMembers]
  simp only [memberName_ok, bind, Except.bind]
  rw [if_pos (by decide), once_of_none rfl, hd]

theorem spells_toJson (t : Template) : Spells Template.fromDraft t t.toJson := by
  have hgroups := Json.spells_array fun g (_ : g ∈ t.filePaths) => g.spells_toJson
  constructor
  · refine Json.readable_object ?_
    intro m hm
    obtain rfl := List.mem_singleton.1 hm
    exact hgroups.readable
  · intro level hlevel
    rw [Template.toJson, Json.depth] at hlevel
    have hread := hgroups.draft (level - 1) (by simp [Json.depthMembers] at hlevel; omega)
    rw [Template.toJson, Json.toDraft, Template.fromDraft, enter_of_lt hlevel]
    simp only [memberDrafts, bind, Except.bind]
    rw [readMembers_filePaths hread]
    rfl

/-- A template of at most 127 levels is read from its text, and from the bytes of
its text, as it was written. -/
theorem fromJson_render (t : Template) (hdepth : t.toJson.depth ≤ 127) :
    Template.fromJson t.toJson.render = .ok t ∧
      Template.ofBytes (Utf8.encode t.toJson.render) = .ok t := by
  have hread : Template.fromJson t.toJson.render = .ok t := t.spells_toJson.readText_render hdepth
  refine ⟨hread, ?_⟩
  rw [Template.ofBytes, Utf8.decode_encode]
  simp only [hread]

example :
    let edit := Edit.replaceBetweenAnchors ⟨['<'], [], ['K'], .last, none⟩
    let file : Node := { name := ['f'], insertions := [edit] }
    (Template.toJson ⟨[⟨['p'], [{ name := ['d'], children := [file] }]⟩]⟩).render =
      ("\x7b\"filePaths\":[\x7b\"path\":\"p\",\"nodes\":[" ++
        "\x7b\"name\":\"d\",\"code\":\"\",\"isIndexer\":false,\"children\":[" ++
        "\x7b\"name\":\"f\",\"code\":\"\",\"isIndexer\":false,\"children\":[]," ++
        "\"insertions\":[\x7b\"type\":\"replaceBetweenAnchors\",\"start\":\"<\",\"end\":\"\"," ++
        "\"key\":\"K\",\"occurrence\":\"last\",\"requireAbsent\":null\x7d]\x7d]\x7d]\x7d]\x7d").toList := by
  decide +kernel

/-- A template with edits of each shape, a control character and a character
beyond the first 65536. -/
theorem fromJson_render_edits :
    let edits : List Edit := [
      .insertAfterLine ⟨"a \"b\"".toList, "K".toList, .last⟩,
      .replaceBetweenAnchors ⟨"x".toList, [], "K".toList, .first, none⟩,
      .conditionalReplace ⟨"\\".toList, ['\x01', '\n'], .last, some []⟩]
    let file : Node := { name := ['😀'], isIndexer := true, insertions := edits }
    let t : Template := ⟨[⟨"p".toList, [{ name := "d".toList, children := [file] }]⟩, {}]⟩
    t.toJson.depth ≤ 127 ∧ Template.fromJson t.toJson.render = .ok t ∧
      Template.ofBytes (Utf8.encode t.toJson.render) = .ok t := by
  intro edits file t
  have hdepth : t.toJson.depth ≤ 127 := by decide
  exact ⟨hdepth, fromJson_render t hdepth⟩

end Template

end Scaffold
