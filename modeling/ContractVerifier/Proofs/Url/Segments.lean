import ContractVerifier.Proofs.Url.Parts

set_option autoImplicit false

/-! # Segments of paths

What becomes of the segments of a path when dots are followed. Segments that are no dots are put
behind those before them (`foldl_keepSegment_of_not_dots`), and segments with dots among them leave
some of what stands before them and some of their own (`foldl_keepSegment_cases`).
-/

namespace ContractVerifier.Url

/-! ## Segments and escapes -/

theorem slash_not_mem_escape {t : Text} (h : '/' ∉ t) : '/' ∉ escape keptInPath t := by
  intro hmem
  obtain ⟨c, hc, hslash⟩ := List.mem_flatMap.mp hmem
  split_ifs at hslash
  · rw [List.mem_singleton] at hslash
    exact h (hslash ▸ hc)
  · rcases mem_escapeChar hslash with hslash | hslash
    · exact absurd hslash (by decide)
    · exact absurd hslash (by decide)

/-- Segments are escaped one by one. -/
theorem split_escape (t : Text) :
    Text.split '/' (escape keptInPath t) = (Text.split '/' t).map (escape keptInPath) := by
  induction t using Text.split_induction '/' with
  | plain t ht =>
      rw [Text.split_of_not_mem ht, Text.split_of_not_mem (slash_not_mem_escape ht)]
      rfl
  | piece p u hp ih =>
      rw [escape_append, escape_cons_of_kept rfl, Text.split_piece hp,
        Text.split_piece (slash_not_mem_escape hp), ih]
      rfl

/-- Segments, each behind a slash. -/
def behindSlashes (names : List Text) : Text := names.flatMap fun name => '/' :: name

theorem behindSlashes_append (names names' : List Text) :
    behindSlashes (names ++ names') = behindSlashes names ++ behindSlashes names' :=
  List.flatMap_append

theorem escape_behindSlashes (names : List Text) :
    escape keptInPath (behindSlashes names) = behindSlashes (names.map (escape keptInPath)) := by
  induction names with
  | nil => rfl
  | cons name names ih =>
      rw [behindSlashes, List.flatMap_cons, ← behindSlashes, List.cons_append,
        escape_cons_of_kept rfl, escape_append, ih]
      rfl

theorem split_behindSlashes {names : List Text} (h : ∀ name ∈ names, '/' ∉ name) (t : Text) :
    Text.split '/' (t ++ behindSlashes names) = Text.split '/' t ++ names := by
  induction names generalizing t with
  | nil => simp [behindSlashes]
  | cons name names ih =>
      have hrest := ih (fun name hname => h name (List.mem_cons_of_mem _ hname)) name
      rw [behindSlashes, List.flatMap_cons, ← behindSlashes, List.cons_append, Text.split_append,
        hrest, Text.split_of_not_mem (h name List.mem_cons_self)]
      rfl

theorem join_behindSlashes {names : List Text} (h : names ≠ []) (names' : List Text) :
    Text.join ['/'] (names ++ names') = Text.join ['/'] names ++ behindSlashes names' := by
  induction names' generalizing names with
  | nil => simp [behindSlashes]
  | cons name names' ih =>
      have hcons : names ++ name :: names' = (names ++ [name]) ++ names' := by simp
      rw [hcons, ih (by simp), Text.join_append h (by simp), behindSlashes, behindSlashes,
        List.flatMap_cons, Text.join_singleton, List.append_assoc, List.cons_append]

theorem behindSlashes_cons (name : Text) (names : List Text) :
    behindSlashes (name :: names) = '/' :: Text.join ['/'] (name :: names) := by
  have h := join_behindSlashes (List.cons_ne_nil name []) names
  rw [List.singleton_append, Text.join_singleton] at h
  rw [h]
  rfl

/-! ## Following dots -/

/-- A segment that is followed and not kept. -/
def IsDots (segment : Text) : Prop := segment = ['.'] ∨ segment = ['.', '.']

instance : DecidablePred IsDots := fun segment =>
  inferInstanceAs (Decidable (segment = ['.'] ∨ segment = ['.', '.']))

/-- The segments of a path that are left when dots are followed, last first. -/
def stack (path : Text) : List Text := (Text.split '/' path).foldl keepSegment []

theorem tidyPath_eq (path : Text) : tidyPath path = Text.join ['/'] (stack path).reverse := rfl

theorem keepSegment_of_not_dots {s : Text} (h : ¬ IsDots s) (kept : List Text) :
    keepSegment kept s = s :: kept := by
  rw [IsDots, not_or] at h
  rw [keepSegment, if_neg h.1, if_neg h.2]

theorem foldl_keepSegment_of_not_dots {segments : List Text} (h : ∀ s ∈ segments, ¬ IsDots s)
    (kept : List Text) : segments.foldl keepSegment kept = segments.reverse ++ kept := by
  induction segments generalizing kept with
  | nil => rfl
  | cons s segments ih =>
      rw [List.foldl_cons, keepSegment_of_not_dots (h s List.mem_cons_self),
        ih fun s hs => h s (List.mem_cons_of_mem _ hs)]
      simp

/-- Whatever the segments are, some of them come before what is left of those that were kept. -/
theorem foldl_keepSegment_cases (segments kept : List Text) :
    ∃ new n, segments.foldl keepSegment kept = new ++ kept.drop n ∧
      ∀ s ∈ new, s ∈ segments ∧ ¬ IsDots s := by
  induction segments generalizing kept with
  | nil => exact ⟨[], 0, rfl, fun _ hs => absurd hs List.not_mem_nil⟩
  | cons s segments ih =>
      obtain ⟨new, n, hfold, hnew⟩ := ih (keepSegment kept s)
      have hnew' : ∀ s' ∈ new, s' ∈ s :: segments ∧ ¬ IsDots s' := fun s' hs' =>
        ⟨List.mem_cons_of_mem s (hnew s' hs').1, (hnew s' hs').2⟩
      rw [List.foldl_cons, hfold]
      by_cases hdots : IsDots s
      · have hstep : ∃ m, keepSegment kept s = kept.drop m := by
          unfold keepSegment
          split_ifs
          · exact ⟨0, rfl⟩
          · exact ⟨0, rfl⟩
          · exact ⟨1, rfl⟩
          · exact absurd hdots (by simp_all [IsDots])
        obtain ⟨m, hm⟩ := hstep
        exact ⟨new, m + n, by rw [hm, List.drop_drop], hnew'⟩
      · rw [keepSegment_of_not_dots hdots]
        cases n with
        | zero =>
            refine ⟨new ++ [s], 0, by simp, fun s' hs' => ?_⟩
            rcases List.mem_append.mp hs' with hs' | hs'
            · exact hnew' s' hs'
            · rw [List.mem_singleton.mp hs']
              exact ⟨List.mem_cons_self, hdots⟩
        | succ n => exact ⟨new, n, rfl, hnew'⟩

theorem slash_not_mem_of_mem_stack {path s : Text} (h : s ∈ stack path) : '/' ∉ s := by
  obtain ⟨new, n, hfold, hnew⟩ := foldl_keepSegment_cases (Text.split '/' path) []
  rw [stack, hfold, List.drop_nil, List.append_nil] at h
  exact Text.not_mem_of_mem_split (hnew s h).1

/-- The root is never left. -/
theorem stack_ne_nil {path : Text} (h : path = [] ∨ path.head? = some '/') : stack path ≠ [] := by
  -- the segment before the first slash is empty and stays at the bottom
  have hroot : ∀ segments kept : List Text, kept.getLast? = some [] →
      (segments.foldl keepSegment kept).getLast? = some [] := by
    intro segments
    induction segments with
    | nil => exact fun _ hkept => hkept
    | cons s segments ih =>
        intro kept hkept
        refine ih _ ?_
        unfold keepSegment
        split_ifs with hdot hdots hroot
        · exact hkept
        · exact hkept
        · rcases kept with _ | ⟨a, _ | ⟨b, kept⟩⟩
          · cases hkept
          · simp only [List.getLast?_singleton, Option.some.injEq] at hkept
            exact absurd (by rw [hkept]) hroot
          · simpa using hkept
        · rcases kept with _ | ⟨a, kept⟩
          · cases hkept
          · simpa using hkept
  have hlast : (stack path).getLast? = some [] := by
    rcases h with rfl | h
    · rfl
    · obtain ⟨rest, rfl⟩ := List.head?_eq_some_iff.mp h
      have hsplit : Text.split '/' ('/' :: rest) = [] :: Text.split '/' rest :=
        Text.split_append [] rest
      rw [stack, hsplit, List.foldl_cons]
      exact hroot _ _ rfl
  intro hnil
  rw [hnil] at hlast
  cases hlast

/-- The segments that are left, read off the path. -/
theorem split_tidyPath {path : Text} (h : stack path ≠ []) :
    Text.split '/' (escape keptInPath (tidyPath path)) =
      (stack path).reverse.map (escape keptInPath) := by
  rw [split_escape, tidyPath_eq, Text.split_join (by simpa using h)]
  exact fun s hs => slash_not_mem_of_mem_stack (List.mem_reverse.mp hs)

end ContractVerifier.Url
