import ContractVerifier.Text.Basic

set_option autoImplicit false

/-! # Associations

A list of keys with their values, in the order in which the keys first came. Putting a
value to a key that is there keeps the key's place.
-/

namespace ContractVerifier.Association

variable {α β : Type} [DecidableEq α]

/-- The pairs with `key` set to `value`: in its old place if the key is there, and last
otherwise. -/
def put (key : α) (value : β) : List (α × β) → List (α × β)
  | [] => [(key, value)]
  | (k, v) :: rest => if k = key then (k, value) :: rest else (k, v) :: put key value rest

/-- The value of a key. -/
def get? (key : α) : List (α × β) → Option β
  | [] => none
  | (k, v) :: rest => if k = key then some v else get? key rest

/-- The pairs put one after another. -/
def ofPairs (pairs : List (α × β)) : List (α × β) :=
  pairs.foldl (fun done pair => put pair.1 pair.2 done) []

@[simp] theorem get?_put (key : α) (value : β) (pairs : List (α × β)) :
    get? key (put key value pairs) = some value := by
  induction pairs with
  | nil => simp [put, get?]
  | cons pair rest ih =>
    obtain ⟨k, v⟩ := pair
    by_cases h : k = key <;> simp [put, get?, h, ih]

theorem get?_put_of_ne {key other : α} (h : other ≠ key) (value : β) (pairs : List (α × β)) :
    get? other (put key value pairs) = get? other pairs := by
  induction pairs with
  | nil => simp [put, get?, h.symm]
  | cons pair rest ih =>
    obtain ⟨k, v⟩ := pair
    by_cases hk : k = key
    · subst hk
      simp [put, get?, h.symm]
    · by_cases ho : k = other <;> simp [put, get?, hk, ho, ih, h]

/-- Putting adds at most the key itself. -/
theorem map_fst_put (key : α) (value : β) (pairs : List (α × β)) :
    (put key value pairs).map Prod.fst =
      if key ∈ pairs.map Prod.fst then pairs.map Prod.fst else pairs.map Prod.fst ++ [key] := by
  induction pairs with
  | nil => simp [put]
  | cons pair rest ih =>
    obtain ⟨k, v⟩ := pair
    by_cases h : k = key
    · simp [put, h]
    · have h' : ¬ key = k := fun e => h e.symm
      by_cases hm : key ∈ rest.map Prod.fst
      · simp only [put, if_neg h, List.map_cons, ih, List.mem_cons, hm, or_true,
          if_true]
      · simp only [put, if_neg h, List.map_cons, ih, List.mem_cons, hm, h', or_self,
          if_false, List.cons_append]

end ContractVerifier.Association
