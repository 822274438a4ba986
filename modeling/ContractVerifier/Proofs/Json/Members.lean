import ContractVerifier.Json.Writer
import Mathlib.Data.List.Induction

set_option autoImplicit false

/-! # Members of objects

What adding a member to an object with given names comes to, and what of an object can be sent.
-/

namespace ContractVerifier

namespace Association

variable {α β : Type} [DecidableEq α]

/-- A new key is put behind all others. -/
theorem put_of_not_mem {key : α} {value : β} {pairs : List (α × β)}
    (h : key ∉ pairs.map Prod.fst) : put key value pairs = pairs ++ [(key, value)] := by
  induction pairs with
  | nil => rfl
  | cons pair rest ih =>
      obtain ⟨k, v⟩ := pair
      rw [List.map_cons, List.mem_cons] at h
      have hne : ¬ k = key := fun hk => h (.inl hk.symm)
      have hrest : key ∉ rest.map Prod.fst := fun hmem => h (.inr hmem)
      rw [put, if_neg hne, ih hrest]
      rfl

/-- Pairs with different keys stay as they are. -/
theorem ofPairs_of_nodup {pairs : List (α × β)} (h : (pairs.map Prod.fst).Nodup) :
    ofPairs pairs = pairs := by
  induction pairs using List.reverseRecOn with
  | nil => rfl
  | append_singleton pairs pair ih =>
      rw [List.map_append, List.nodup_append] at h
      have hnew : pair.1 ∉ pairs.map Prod.fst := fun hmem => h.2.2 _ hmem _ (by simp) rfl
      rw [ofPairs, List.foldl_append, ← ofPairs, ih h.1, List.foldl_cons, List.foldl_nil,
        put_of_not_mem hnew]

/-- Values whose keys are given as literals. -/
theorem get?_map_toList (name : String) (members : List (String × β)) :
    get? name.toList (members.map fun m => (m.1.toList, m.2)) = members.lookup name := by
  induction members with
  | nil => rfl
  | cons m rest ih =>
      obtain ⟨k, v⟩ := m
      rw [List.map_cons, get?, ih, List.lookup_cons]
      by_cases h : k = name
      · rw [if_pos (congrArg String.toList h), beq_iff_eq.mpr h.symm]
      · rw [if_neg fun hl => h (String.toList_injective hl),
          beq_eq_false_iff_ne.mpr fun hn => h hn.symm]

end Association

namespace Json

theorem member?_ofMembers (name : String) (members : List (String × Json)) :
    (ofMembers members).member? name = members.lookup name :=
  Association.get?_map_toList name members

/-- A member with a new name stands last. -/
theorem insert_ofMembers {members : List (String × Json)} {name : String} {value : Json}
    (h : name ∉ members.map Prod.fst) :
    (ofMembers members).insert name value = ofMembers (members ++ [(name, value)]) := by
  have hnames : name.toList ∉ (members.map fun m => (m.1.toList, m.2)).map Prod.fst := by
    intro hmem
    rw [List.map_map, List.mem_map] at hmem
    obtain ⟨m, hm, hname⟩ := hmem
    exact h (List.mem_map.mpr ⟨m, hm, String.toList_injective hname⟩)
  show object (Association.put name.toList value _) = _
  rw [Association.put_of_not_mem hnames]
  simp [ofMembers]

/-- Adding a member leaves those with other names alone. -/
theorem member?_insert_of_ne {v : Json} {name other : String} (h : name ≠ other) (value : Json) :
    (v.insert other value).member? name = v.member? name := by
  cases v with
  | object members =>
      exact Association.get?_put_of_ne (fun hname => h (String.toList_injective hname)) value members
  | _ => rfl

theorem member?_ofMembers_cons (name : String) (value : Json) (members : List (String × Json)) :
    (ofMembers ((name, value) :: members)).member? name = some value := by
  rw [ofMembers, List.map_cons, member?, Association.get?, if_pos rfl]

theorem membersFinite_eq_all (members : List (Text × Json)) :
    membersFinite members = members.all fun m => m.2.isFinite := by
  induction members with
  | nil => rfl
  | cons m rest ih => rw [membersFinite, ih, List.all_cons]

/-- An object is finite if all its members are. -/
theorem isFinite_ofMembers (members : List (String × Json)) :
    (ofMembers members).isFinite = members.all fun m => m.2.isFinite := by
  rw [ofMembers, isFinite, membersFinite_eq_all, List.all_map]
  rfl

/-- The JSON text of the value has bytes: it holds no half of a pair. -/
def HasBytes (v : Json) : Prop := Unencodable.find? .utf8 v.write = none

instance : DecidablePred HasBytes := fun v =>
  inferInstanceAs (Decidable (Unencodable.find? .utf8 v.write = none))

theorem checkWritable_of_isFinite {v : Json} (hfinite : v.isFinite) (hbytes : v.HasBytes) :
    v.checkWritable = .ok () := by
  unfold checkWritable
  rw [hfinite, show Unencodable.find? .utf8 v.write = none from hbytes]
  rfl

theorem checkWritable_of_not_isFinite {v : Json} (h : ¬ v.isFinite) :
    v.checkWritable = .error .notFinite := by
  unfold checkWritable
  rw [Bool.not_eq_true] at h
  rw [h]
  rfl

end Json

end ContractVerifier
