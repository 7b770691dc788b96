/-
# Tables as lists of pairs

What stands at a location, what a placeholder means and which number an anchor
has are kept as lists of pairs.  A new value goes in front and the pair it
replaces is taken out, so a lookup finds the new value under its own key and
what it found before under every other one (`lookup_put`).
-/
namespace Scaffold.Table

variable {α β : Type} [BEq α]

/-- Puts a value under a key, in place of the one that stood there. -/
def put (entries : List (α × β)) (key : α) (value : β) : List (α × β) :=
  (key, value) :: entries.filter fun e => e.1 != key

variable [LawfulBEq α] {entries : List (α × β)} {key key' : α}

theorem lookup_filter_ne (h : key' ≠ key) :
    (entries.filter fun e => e.1 != key).lookup key' = entries.lookup key' := by
  induction entries with
  | nil => rfl
  | cons e rest ih =>
      obtain ⟨k, b⟩ := e
      by_cases hk : k = key
      · have hne : (key' == k) = false := by rw [hk]; exact beq_false_of_ne h
        rw [List.filter_cons_of_neg (by simp [hk]), ih, List.lookup_cons, hne]
      · rw [List.filter_cons_of_pos (by simp [hk]), List.lookup_cons, List.lookup_cons, ih]

theorem lookup_put_self (entries : List (α × β)) (key : α) (value : β) :
    (put entries key value).lookup key = some value :=
  List.lookup_cons_self

theorem lookup_put_ne (value : β) (h : key' ≠ key) :
    (put entries key value).lookup key' = entries.lookup key' := by
  rw [put, List.lookup_cons, beq_false_of_ne h]
  exact lookup_filter_ne h

theorem lookup_put [DecidableEq α] (value : β) :
    (put entries key value).lookup key' =
      if key = key' then some value else entries.lookup key' := by
  split
  next h => exact h ▸ lookup_put_self entries key value
  next h => exact lookup_put_ne value (Ne.symm h)

end Scaffold.Table
