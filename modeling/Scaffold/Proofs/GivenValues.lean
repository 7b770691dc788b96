/-
# A value that was given wins over a derived one

Values are given one call after the other.  A call gives a value for its own
name, and one that gives the other spellings too derives values for the names
with a suffix.  What a name means in the end is read off the calls alone
(`get?_ofCalls`):

    the last value that was given for the name itself, if there is one,
    else the last value that was derived for it.

One call changes the values as `get?_run` says, and it is the names that were
given, and not the order of the calls, that keep derived values away.
-/
import Scaffold.Placeholder
import Mathlib.Data.List.Induction

namespace Scaffold.Placeholders

/-- A way to give a value. -/
inductive Call where
  | insert (key value : Text)
  | insertWithVariants (key value : Text)
deriving DecidableEq, Repr

namespace Call

def key : Call → Text
  | .insert key _ => key
  | .insertWithVariants key _ => key

def value : Call → Text
  | .insert _ value => value
  | .insertWithVariants _ value => value

def run (p : Placeholders) : Call → Placeholders
  | .insert key value => p.insert key value
  | .insertWithVariants key value => p.insertWithVariants key value

/-- The value that the call gives for the name itself. -/
def given? (name : Text) (c : Call) : Option Text :=
  if c.key = name then some c.value else none

/-- The value that the call derives for the name, the name being that of the
call with the suffix of a variant. -/
def derived? (name : Text) : Call → Option Text
  | .insert _ _ => none
  | .insertWithVariants key value =>
    (variants.find? fun v => key ++ v.1 == name).map fun v => v.2 value

end Call

/-- The values after some calls, the first call first. -/
def ofCalls (calls : List Call) : Placeholders :=
  calls.foldl Call.run empty

/-! ## One value -/

section One

variable (p : Placeholders) (key value name : Text)

theorem get?_set :
    (p.set key value).get? name = if key = name then some value else p.get? name :=
  Table.lookup_put value

theorem get?_insert :
    (p.insert key value).get? name = if key = name then some value else p.get? name :=
  get?_set p key value name

theorem given_derive (variant : Text × (Text → Text)) :
    (p.derive key value variant).given = p.given := by
  rw [derive]
  split <;> rfl

theorem get?_derive (variant : Text × (Text → Text)) :
    (p.derive key value variant).get? name =
      if key ++ variant.1 = name ∧ name ∉ p.given then some (variant.2 value) else p.get? name := by
  rw [derive]
  split
  next hgiven =>
    rw [if_neg]
    rintro ⟨rfl, hnot⟩
    exact hnot (List.contains_iff_mem.1 hgiven)
  next hgiven =>
    rw [get?_set]
    have hnot : key ++ variant.1 ∉ p.given := fun hmem => hgiven (List.contains_iff_mem.2 hmem)
    by_cases hname : key ++ variant.1 = name
    · rw [if_pos hname, if_pos ⟨hname, hname ▸ hnot⟩]
    · rw [if_neg hname, if_neg fun h => hname h.1]

end One

/-! ## The variants of one call -/

theorem given_foldl_derive (p : Placeholders) (key value : Text)
    (vs : List (Text × (Text → Text))) :
    (vs.foldl (fun q v => q.derive key value v) p).given = p.given := by
  induction vs generalizing p with
  | nil => rfl
  | cons v vs ih => rw [List.foldl_cons, ih, given_derive]

/-- The variants reach the names that were not given, each suffix its own. -/
theorem get?_foldl_derive (p : Placeholders) (key value : Text) {name : Text}
    {vs : List (Text × (Text → Text))} (hvs : (vs.map Prod.fst).Nodup) (hname : name ∉ p.given) :
    (vs.foldl (fun q v => q.derive key value v) p).get? name =
      ((vs.find? fun v => key ++ v.1 == name).map fun v => v.2 value).or (p.get? name) := by
  induction vs generalizing p with
  | nil => rfl
  | cons v vs ih =>
      rw [List.map_cons, List.nodup_cons] at hvs
      have hgiven : name ∉ (p.derive key value v).given := by
        rw [given_derive]
        exact hname
      rw [List.foldl_cons, ih _ hvs.2 hgiven, get?_derive, List.find?_cons]
      by_cases hv : key ++ v.1 = name
      · -- no other suffix makes the same name of this key
        have hnone : vs.find? (fun u => key ++ u.1 == name) = none := by
          rw [List.find?_eq_none]
          intro u hu hsame
          have : v.1 = u.1 := List.append_cancel_left (hv.trans (eq_of_beq hsame).symm)
          exact hvs.1 (this ▸ List.mem_map_of_mem hu)
        rw [hnone, if_pos ⟨hv, hname⟩, beq_iff_eq.2 hv]
        rfl
      · rw [if_neg fun h => hv h.1, beq_eq_false_iff_ne.2 hv]

theorem get?_foldl_derive_of_given (p : Placeholders) (key value : Text) {name : Text}
    (vs : List (Text × (Text → Text))) (hname : name ∈ p.given) :
    (vs.foldl (fun q v => q.derive key value v) p).get? name = p.get? name := by
  induction vs generalizing p with
  | nil => rfl
  | cons v vs ih =>
      have hgiven : name ∈ (p.derive key value v).given := by
        rw [given_derive]
        exact hname
      rw [List.foldl_cons, ih _ hgiven, get?_derive, if_neg fun h => h.2 hname]

theorem nodup_suffixes : (variants.map Prod.fst).Nodup := by decide

/-! ## One call -/

theorem given_run (p : Placeholders) (c : Call) : (c.run p).given = c.key :: p.given := by
  cases c with
  | insert key value => rfl
  | insertWithVariants key value =>
      show key :: (variants.foldl _ p).given = _
      rw [given_foldl_derive]
      rfl

/-- A call gives the value of its own name; it derives values for names that
were not given so far, and leaves all else. -/
theorem get?_run (p : Placeholders) (c : Call) (name : Text) :
    (c.run p).get? name =
      (c.given? name).or (if name ∈ p.given then p.get? name
        else (c.derived? name).or (p.get? name)) := by
  cases c with
  | insert key value =>
      rw [Call.run, get?_insert, Call.given?, Call.derived?, Option.none_or, ite_self]
      by_cases h : key = name <;> simp [h, Call.key, Call.value]
  | insertWithVariants key value =>
      rw [Call.run, insertWithVariants, get?_insert, Call.given?]
      by_cases h : key = name
      · simp [h, Call.key, Call.value]
      · rw [if_neg h, if_neg (show ¬ (Call.insertWithVariants key value).key = name from h),
          Option.none_or]
        split
        next hgiven => exact get?_foldl_derive_of_given p key value variants hgiven
        next hgiven => exact get?_foldl_derive p key value nodup_suffixes hgiven

/-! ## A run of calls -/

theorem ofCalls_concat (calls : List Call) (c : Call) :
    ofCalls (calls ++ [c]) = c.run (ofCalls calls) := by
  rw [ofCalls, ofCalls, List.foldl_append]
  rfl

theorem given_ofCalls (calls : List Call) :
    (ofCalls calls).given = (calls.map Call.key).reverse := by
  induction calls using List.reverseRecOn with
  | nil => rfl
  | append_singleton calls c ih => rw [ofCalls_concat, given_run, ih]; simp

theorem getLast?_given_eq_none_iff {calls : List Call} {name : Text} :
    (calls.filterMap (Call.given? name)).getLast? = none ↔ name ∉ (ofCalls calls).given := by
  rw [given_ofCalls, List.getLast?_eq_none_iff, List.filterMap_eq_nil_iff, List.mem_reverse,
    List.mem_map]
  simp [Call.given?]

/-- What the last of the results is, with one more element at the end. -/
theorem getLast?_filterMap_concat {α β : Type} (f : α → Option β) (l : List α) (a : α) :
    ((l ++ [a]).filterMap f).getLast? = (f a).or (l.filterMap f).getLast? := by
  rw [List.filterMap_append, List.getLast?_append]
  cases h : f a <;> simp [h]

/-- A name means the last value that was given for it; if none was, the last
that was derived for it; and otherwise nothing. -/
theorem get?_ofCalls (calls : List Call) (name : Text) :
    (ofCalls calls).get? name =
      (calls.filterMap (Call.given? name)).getLast?.or
        (calls.filterMap (Call.derived? name)).getLast? := by
  induction calls using List.reverseRecOn with
  | nil => rfl
  | append_singleton calls c ih =>
      rw [ofCalls_concat, get?_run, getLast?_filterMap_concat, getLast?_filterMap_concat,
        Option.or_assoc, ih]
      congr 1
      by_cases hgiven : name ∈ (ofCalls calls).given
      · obtain ⟨value, hvalue⟩ : ∃ value,
            (calls.filterMap (Call.given? name)).getLast? = some value :=
          Option.ne_none_iff_exists'.1 fun hnone => getLast?_given_eq_none_iff.1 hnone hgiven
        rw [if_pos hgiven, hvalue, Option.some_or, Option.some_or]
      · rw [if_neg hgiven, getLast?_given_eq_none_iff.2 hgiven, Option.none_or, Option.none_or]

/-- The order of the calls does not matter to a name that was given once.  The
other spellings are derived. -/
example :
    let explicit := Call.insert "NameKebabCase".toList "custom".toList
    let derived := Call.insertWithVariants "Name".toList "FooBar".toList
    let suffixes := ["", "KebabCase", "PascalCase", "CamelCase", "LowerCase", "SnakeCase",
      "ScreamingSnakeCase"]
    let spellings := ["FooBar", "custom", "FooBar", "fooBar", "foobar", "foo_bar", "FOO_BAR"]
    ∀ calls ∈ [[explicit, derived], [derived, explicit]],
      (suffixes.map fun suffix => (ofCalls calls).get? ("Name" ++ suffix).toList) =
        spellings.map fun value => some value.toList := by
  decide +kernel

end Scaffold.Placeholders
