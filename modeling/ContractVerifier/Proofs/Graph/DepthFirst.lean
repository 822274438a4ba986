import Mathlib.Data.List.Nodup
import Mathlib.Logic.Relation

set_option autoImplicit false

/-! # Depth-first search

A graph is given by the edges that leave each node, in order; every edge carries a label.
`DepthFirst next edges seen seen' order` says that a search which has seen the nodes `seen` and
follows `edges` one after another has seen `seen'` in the end, and that it finished the nodes of
`order` in that order, each listed with the label of the edge that first led to it. A node is
seen when the search comes to it and finished when all its edges are followed.

The relation has no bound in it. Its main properties, for a search from a node `e` that has seen
only `e`:

* `DepthFirst.mem_order_iff` - the nodes finished are those that `e` reaches, without `e`;
* `DepthFirst.nodup` - no node is seen twice;
* `DepthFirst.before` - where `a` has an edge to `b`, either `b` finishes before `a` or there is
  a way back from `b` to `a`;
* `DepthFirst.unique` - the order is determined by the graph.
-/

namespace ContractVerifier.Search

variable {α σ : Type} {next : α → List (σ × α)}

/-- There is an edge from `a` to `b`. -/
def Edge (next : α → List (σ × α)) (a b : α) : Prop := b ∈ (next a).map Prod.snd

/-- There is a way from `a` to `b`, perhaps without any edge. -/
abbrev Way (next : α → List (σ × α)) : α → α → Prop := Relation.ReflTransGen (Edge next)

/-- A depth-first search along a list of edges. -/
inductive DepthFirst (next : α → List (σ × α)) :
    List (σ × α) → List α → List α → List (σ × α) → Prop where
  | nil {seen : List α} : DepthFirst next [] seen seen []
  /-- The edge leads to a node that was seen before, finished or not. -/
  | skip {s : σ} {b : α} {edges order : List (σ × α)} {seen seen' : List α} :
      b ∈ seen → DepthFirst next edges seen seen' order →
      DepthFirst next ((s, b) :: edges) seen seen' order
  /-- The edge leads to a new node; what is found from there finishes before it. -/
  | enter {s : σ} {b : α} {edges inner order : List (σ × α)} {seen seen₁ seen' : List α} :
      b ∉ seen → DepthFirst next (next b) (seen ++ [b]) seen₁ inner →
      DepthFirst next edges seen₁ seen' order →
      DepthFirst next ((s, b) :: edges) seen seen' (inner ++ (s, b) :: order)

namespace DepthFirst

variable {edges edges' order order' : List (σ × α)} {seen seen' seen'' : List α}

/-! ## What is seen -/

/-- What a search sees is what it finishes: no node stays open. -/
theorem seen_eq (h : DepthFirst next edges seen seen' order) :
    ∃ fresh, seen' = seen ++ fresh ∧ fresh.Perm (order.map Prod.snd) := by
  induction h with
  | nil => exact ⟨[], by simp, List.Perm.refl _⟩
  | skip _ _ ih => exact ih
  | @enter s b _ inner order _ _ _ _ _ _ ihb ih =>
      obtain ⟨fresh₁, rfl, h₁⟩ := ihb
      obtain ⟨fresh₂, rfl, h₂⟩ := ih
      refine ⟨b :: fresh₁ ++ fresh₂, by simp, ?_⟩
      have h : (b :: fresh₁ ++ fresh₂).Perm (b :: (inner.map Prod.snd ++ order.map Prod.snd)) :=
        List.Perm.cons b (h₁.append h₂)
      rw [List.map_append, List.map_cons]
      exact h.trans List.perm_middle.symm

theorem mem_seen_iff (h : DepthFirst next edges seen seen' order) {a : α} :
    a ∈ seen' ↔ a ∈ seen ∨ a ∈ order.map Prod.snd := by
  obtain ⟨fresh, rfl, hperm⟩ := h.seen_eq
  rw [List.mem_append, hperm.mem_iff]

/-- **No node is seen twice.** -/
theorem nodup (h : DepthFirst next edges seen seen' order) (hseen : seen.Nodup) :
    seen'.Nodup := by
  induction h with
  | nil => exact hseen
  | skip _ _ ih => exact ih hseen
  | enter hb _ _ ihb ih =>
      apply ih
      apply ihb
      rw [List.nodup_append]
      refine ⟨hseen, List.nodup_singleton _, ?_⟩
      rintro a ha c hc rfl
      rw [List.mem_singleton] at hc
      exact hb (hc ▸ ha)

/-- The nodes finished are new, and each of them is listed once. -/
theorem nodup_order (h : DepthFirst next edges seen seen' order) (hseen : seen.Nodup) :
    (order.map Prod.snd).Nodup ∧ ∀ a ∈ order.map Prod.snd, a ∉ seen := by
  have hnodup := h.nodup hseen
  obtain ⟨fresh, rfl, hperm⟩ := h.seen_eq
  obtain ⟨-, hfresh, hdisjoint⟩ := List.nodup_append.mp hnodup
  refine ⟨hperm.nodup_iff.mp hfresh, ?_⟩
  intro a ha hs
  exact hdisjoint a hs a (hperm.mem_iff.mpr ha) rfl

/-- Every edge that was followed leads to a node that is seen now. -/
theorem snd_mem_seen (h : DepthFirst next edges seen seen' order) :
    ∀ b ∈ edges.map Prod.snd, b ∈ seen' := by
  induction h with
  | nil => simp
  | skip hb h ih =>
      intro c hc
      rcases List.mem_cons.mp hc with rfl | hc
      · exact h.mem_seen_iff.mpr (Or.inl hb)
      · exact ih c hc
  | enter _ hb h _ ih =>
      intro c hc
      rcases List.mem_cons.mp hc with rfl | hc
      · exact h.mem_seen_iff.mpr (Or.inl (hb.mem_seen_iff.mpr (Or.inl (by simp))))
      · exact ih c hc

/-- The edges of a finished node lead to nodes that are seen. -/
theorem closed (h : DepthFirst next edges seen seen' order) :
    ∀ a ∈ order.map Prod.snd, ∀ b, Edge next a b → b ∈ seen' := by
  induction h with
  | nil => simp
  | skip _ _ ih => exact ih
  | enter _ hb h ihb ih =>
      intro a ha c hc
      rw [List.map_append, List.map_cons, List.mem_append, List.mem_cons] at ha
      rcases ha with ha | rfl | ha
      · exact h.mem_seen_iff.mpr (Or.inl (ihb a ha c hc))
      · exact h.mem_seen_iff.mpr (Or.inl (hb.snd_mem_seen c hc))
      · exact ih a ha c hc

/-! ## What is reached -/

/-- A finished node is reached from the end of one of the edges. -/
theorem way_of_mem (h : DepthFirst next edges seen seen' order) :
    ∀ a ∈ order.map Prod.snd, ∃ b ∈ edges.map Prod.snd, Way next b a := by
  induction h with
  | nil => simp
  | skip _ _ ih =>
      intro a ha
      obtain ⟨c, hc, hway⟩ := ih a ha
      exact ⟨c, List.mem_cons_of_mem _ hc, hway⟩
  | @enter _ b _ _ _ _ _ _ _ _ _ ihb ih =>
      intro a ha
      rw [List.map_append, List.map_cons, List.mem_append, List.mem_cons] at ha
      rcases ha with ha | rfl | ha
      · obtain ⟨c, hc, hway⟩ := ihb a ha
        exact ⟨b, by simp, Relation.ReflTransGen.head hc hway⟩
      · exact ⟨a, by simp, Relation.ReflTransGen.refl⟩
      · obtain ⟨c, hc, hway⟩ := ih a ha
        exact ⟨c, List.mem_cons_of_mem _ hc, hway⟩

/-- What is listed with a finished node is the label of an edge to it. -/
theorem exists_edge (h : DepthFirst next edges seen seen' order) {f : σ × α} (hf : f ∈ order) :
    f ∈ edges ∨ ∃ a, f ∈ next a := by
  induction h with
  | nil => cases hf
  | skip _ _ ih => exact (ih hf).imp_left (List.mem_cons_of_mem _)
  | @enter _ b _ _ _ _ _ _ _ _ _ ihb ih =>
      rcases List.mem_append.mp hf with hf | hf
      · exact (ihb hf).elim (fun hb => .inr ⟨b, hb⟩) .inr
      · rcases List.mem_cons.mp hf with rfl | hf
        · exact .inl List.mem_cons_self
        · exact (ih hf).imp_left (List.mem_cons_of_mem _)

/-- A search along the edges of `e` that has seen only `e` finishes **exactly the nodes that `e`
reaches**, without `e`. -/
theorem mem_order_iff {e : α} (h : DepthFirst next (next e) [e] seen' order) (a : α) :
    a ∈ order.map Prod.snd ↔ a ≠ e ∧ Way next e a := by
  constructor
  · intro ha
    refine ⟨?_, ?_⟩
    · have hnew := (h.nodup_order (List.nodup_singleton e)).2 a ha
      simpa using hnew
    · obtain ⟨b, hb, hway⟩ := h.way_of_mem a ha
      exact Relation.ReflTransGen.head hb hway
  · rintro ⟨hne, hway⟩
    -- what is seen is closed under edges, so a way from `e` stays in it
    have hseen : a ∈ seen' := by
      clear hne
      induction hway with
      | refl => exact h.mem_seen_iff.mpr (Or.inl (by simp))
      | tail _ hedge ih =>
          rcases h.mem_seen_iff.mp ih with hb | hb
          · rw [List.mem_singleton] at hb
            subst hb
            exact h.snd_mem_seen _ hedge
          · exact h.closed _ hb _ hedge
    rcases h.mem_seen_iff.mp hseen with ha | ha
    · exact absurd (List.mem_singleton.mp ha) hne
    · exact ha

/-! ## The order -/

/-- Where `a` is finished and has an edge to `b`: `b` was seen before the search, or finishes
before `a`, or reaches `a`. In the last case `b` may still be open when `a` finishes. -/
theorem before (h : DepthFirst next edges seen seen' order) :
    ∀ a ∈ order.map Prod.snd, ∀ b, Edge next a b →
      b ∈ seen ∨ [b, a].Sublist (order.map Prod.snd) ∨ Way next b a := by
  induction h with
  | nil => simp
  | skip _ _ ih => exact ih
  | @enter s b _ inner order _ _ _ _ hb _ ihb ih =>
      intro a ha c hc
      have hlist : (inner ++ (s, b) :: order).map Prod.snd
          = inner.map Prod.snd ++ b :: order.map Prod.snd := by simp
      rw [hlist] at ha ⊢
      have hinner : (inner.map Prod.snd).Sublist (inner.map Prod.snd ++ b :: order.map Prod.snd) :=
        List.sublist_append_left _ _
      have horder : (order.map Prod.snd).Sublist (inner.map Prod.snd ++ b :: order.map Prod.snd) :=
        (List.sublist_cons_self _ _).trans (List.sublist_append_right _ _)
      rw [List.mem_append, List.mem_cons] at ha
      rcases ha with ha | rfl | ha
      · -- `a` was found from `b`
        rcases ihb a ha c hc with hs | hsub | hway
        · rw [List.mem_append, List.mem_singleton] at hs
          rcases hs with hs | rfl
          · exact Or.inl hs
          · obtain ⟨d, hd, hway⟩ := hb.way_of_mem a ha
            exact Or.inr (Or.inr (Relation.ReflTransGen.head hd hway))
        · exact Or.inr (Or.inl (hsub.trans hinner))
        · exact Or.inr (Or.inr hway)
      · -- `a` is the node of this edge: all its edges were followed
        rcases hb.mem_seen_iff.mp (hb.snd_mem_seen c hc) with hs | hs
        · rw [List.mem_append, List.mem_singleton] at hs
          rcases hs with hs | rfl
          · exact Or.inl hs
          · exact Or.inr (Or.inr Relation.ReflTransGen.refl)
        · refine Or.inr (Or.inl ?_)
          exact (List.singleton_sublist.mpr hs).append
            (List.singleton_sublist.mpr (List.mem_cons_self ..))
      · -- `a` was found along a later edge
        rcases ih a ha c hc with hs | hsub | hway
        · rcases hb.mem_seen_iff.mp hs with hs | hs
          · rw [List.mem_append, List.mem_singleton] at hs
            rcases hs with hs | rfl
            · exact Or.inl hs
            · refine Or.inr (Or.inl ?_)
              exact (List.Sublist.cons_cons _ (List.singleton_sublist.mpr ha)).trans
                (List.sublist_append_right _ _)
          · refine Or.inr (Or.inl ?_)
            exact (List.singleton_sublist.mpr hs).append
              (List.singleton_sublist.mpr (List.mem_cons_of_mem _ ha))
        · exact Or.inr (Or.inl (hsub.trans horder))
        · exact Or.inr (Or.inr hway)

/-! ## The search as a function of the graph -/

theorem append (h : DepthFirst next edges seen seen' order)
    (h' : DepthFirst next edges' seen' seen'' order') :
    DepthFirst next (edges ++ edges') seen seen'' (order ++ order') := by
  induction h with
  | nil => exact h'
  | skip hb _ ih => exact .skip hb (ih h')
  | enter hb h₁ _ _ ih =>
      rw [List.append_assoc, List.cons_append]
      exact .enter hb h₁ (ih h')

/-- **The order is determined** by the graph, the edges and what was seen. -/
theorem unique (h : DepthFirst next edges seen seen' order)
    (h' : DepthFirst next edges seen seen'' order') : seen'' = seen' ∧ order' = order := by
  induction h generalizing seen'' order' with
  | nil =>
      cases h' with
      | nil => exact ⟨rfl, rfl⟩
  | skip hb _ ih =>
      cases h' with
      | skip _ h' => exact ih h'
      | enter hn _ _ => exact absurd hb hn
  | enter hb _ _ ihb ih =>
      cases h' with
      | skip hs _ => exact absurd hs hb
      | enter _ hb' h' =>
          obtain ⟨rfl, rfl⟩ := ihb hb'
          obtain ⟨rfl, rfl⟩ := ih h'
          exact ⟨rfl, rfl⟩

end DepthFirst

end ContractVerifier.Search
