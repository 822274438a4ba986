import ContractVerifier.Proofs.Files.Settled
import Mathlib.Data.Finset.Prod

set_option autoImplicit false

/-! # Which locations can be found

Every name on the way to something that is found is the last name of an entry, and a path that is
not too long has fewer than 2048 names. So what can be found stands in a finite set of locations
(`mem_places_of_find`).
-/

namespace ContractVerifier.Tree

variable {t : Tree}

/-- The names that entries have. -/
def entryNames (t : Tree) : Finset Text := (t.entries.filterMap fun e => e.1.getLast?).toFinset

theorem mem_entryNames_of_node? {here : Location} {name : Text} {node : Node}
    (h : t.node? (here ++ [name]) = some node) : name ∈ t.entryNames := by
  have hentry : here ++ [name] ∈ t.entries.map Prod.fst := mem_entries_of_node? (by simp) h
  obtain ⟨e, he, hl⟩ := List.mem_map.mp hentry
  rw [entryNames, List.mem_toFinset, List.mem_filterMap]
  exact ⟨e, he, by rw [hl, List.getLast?_concat]⟩

/-- A walk that arrives has come along entries with the names it took. -/
theorem mem_entryNames_of_walk {last : Bool} {links : Nat} {here l : Location} {names : List Text}
    (h : t.walk last links here names = .ok l) :
    ∀ name ∈ names, IsName name → name ∈ t.entryNames := by
  induction links, here, names using walk_induction t last with
  | done => simp
  | stuck _ _ _ _ hhere =>
      rw [walk_of_not_directory hhere] at h
      cases h
  | blank _ _ _ _ hhere hblank ih =>
      rw [walk_of_blank hhere hblank] at h
      intro name hname hisName
      rcases List.mem_cons.mp hname with rfl | hname
      · exact absurd hblank hisName.not_blank
      · exact ih h name hname hisName
  | up _ _ _ hhere ih =>
      rw [walk_up hhere] at h
      intro name hname hisName
      rcases List.mem_cons.mp hname with rfl | hname
      · exact absurd rfl hisName.not_up
      · exact ih h name hname hisName
  | tooLong _ _ _ _ hhere hname hlong =>
      rw [walk_of_tooLong hhere hname hlong] at h
      cases h
  | missing _ _ _ _ hhere hname hshort hnode =>
      rw [walk_of_missing hhere hname hshort hnode] at h
      cases h
  | kept _ _ _ _ _ _ _ _ hnode hkept =>
      intro name hname _
      rw [hkept.1, List.mem_singleton] at hname
      exact hname ▸ mem_entryNames_of_node? hnode
  | looped _ _ _ _ hhere hname hshort hnode hfollowed =>
      rw [walk_of_looped hhere hname hshort hnode hfollowed] at h
      cases h
  | link _ _ _ _ _ hhere hname hshort hnode hfollowed ih =>
      rw [walk_of_link hhere hname hshort hnode hfollowed] at h
      intro name hname hisName
      rcases List.mem_cons.mp hname with rfl | hname
      · exact mem_entryNames_of_node? hnode
      · exact ih h name (List.mem_append_right _ hname) hisName
  | entry _ _ _ _ _ hhere hname hshort hnode hlink ih =>
      rw [walk_of_entry hhere hname hshort hnode hlink] at h
      intro name hname hisName
      rcases List.mem_cons.mp hname with rfl | hname
      · exact mem_entryNames_of_node? hnode
      · exact ih h name hname hisName

/-! ## Long paths -/

theorem length_le_length_encode (s : Text) : s.length ≤ (Utf8.encode s).length := by
  rw [Utf8.encode, List.length_flatMap]
  induction s with
  | nil => simp
  | cons c s ih =>
      have hc : 1 ≤ (String.utf8EncodeChar c).length := by
        rw [String.length_utf8EncodeChar]
        exact c.utf8Size_pos
      rw [List.length_cons, List.map_cons, List.sum_cons]
      omega

/-- Every name takes two characters or more, one of them its slash. -/
theorem two_mul_length_le_length_text {l : Location} (h : Proper l) :
    2 * l.length ≤ l.text.length := by
  have hjoin : ∀ names : List Text, Proper names →
      2 * names.length ≤ (Text.join ['/'] names).length + 1 := by
    intro names hnames
    induction names with
    | nil => simp
    | cons name names ih =>
        have hname : 1 ≤ name.length :=
          List.length_pos_iff.mpr (hnames name (List.mem_cons_self ..)).1
        have hrest := ih fun n hn => hnames n (List.mem_cons_of_mem name hn)
        unfold Text.join at hrest ⊢
        by_cases hnil : names = []
        · subst hnil
          rw [List.intercalate_singleton, List.length_singleton]
          omega
        · rw [List.intercalate_cons_of_ne_nil hnil]
          simp only [List.length_append, List.length_cons, List.length_nil]
          omega
  have hlength := hjoin l h
  simp only [Location.text, Path.text, Path.ofLocation, List.length_cons]
  exact hlength

/-! ## Places -/

/-- The locations of at most so many names, each the name of an entry. -/
def places (t : Tree) : Nat → Finset Location
  | 0 => {[]}
  | n + 1 => insert [] ((t.entryNames ×ˢ t.places n).image fun p => p.1 :: p.2)

theorem mem_places_of_forall {n : Nat} {l : Location} (hlength : l.length ≤ n)
    (hnames : ∀ name ∈ l, name ∈ t.entryNames) : l ∈ t.places n := by
  induction n generalizing l with
  | zero =>
      rw [List.length_eq_zero_iff.mp (Nat.le_zero.mp hlength)]
      exact Finset.mem_singleton_self _
  | succ n ih =>
      rw [places, Finset.mem_insert]
      cases l with
      | nil => exact .inl rfl
      | cons name l =>
          right
          have hl : l ∈ t.places n := by
            refine ih (Nat.le_of_succ_le_succ hlength) ?_
            intro other hother
            exact hnames other (List.mem_cons_of_mem name hother)
          have hname : name ∈ t.entryNames := hnames name (List.mem_cons_self ..)
          exact Finset.mem_image.mpr ⟨(name, l), Finset.mem_product.mpr ⟨hname, hl⟩, rfl⟩

/-- What is found is in one of few places. -/
theorem mem_places_of_find {l l' : Location} {node : Node} (hl : Proper l)
    (h : t.find (.ofLocation l) = .ok (l', node)) : l ∈ t.places 2047 := by
  rw [find] at h
  split at h
  · cases h
  · split at h
    · cases h
    · rename_i hlong
      split at h
      · cases h
      · rename_i l'' hwalk
        apply mem_places_of_forall
        · have hbytes : (Utf8.encode l.text).length ≤ 4095 := Nat.not_lt.mp hlong
          have hchars := length_le_length_encode l.text
          have hnames := two_mul_length_le_length_text hl
          omega
        · exact fun name hname => mem_entryNames_of_walk hwalk name hname (hl name hname)

end ContractVerifier.Tree
