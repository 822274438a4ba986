import ContractVerifier.Proofs.Flatten.Remaining
import ContractVerifier.Proofs.Solidity.HeaderLines

set_option autoImplicit false

/-! # Which characters the result has

The result is made of texts that were read, of the names in the captions and of line feeds. In what
is read every line end is a line feed, and so it is in the result, if the name of the entry has no
carriage return in it (`return_not_mem_of_flattenGraph`).
-/

namespace ContractVerifier

namespace Text

variable {c : Char} {t : Text}

theorem return_not_mem_unifyFrom {done : Text} {afterReturn : Bool} (h : '\r' ∉ done) :
    '\r' ∉ unifyFrom done afterReturn t := by
  induction t generalizing done afterReturn with
  | nil => simpa [unifyFrom] using h
  | cons c t ih =>
      rw [unifyFrom]
      split
      · exact ih (by simpa using h)
      · rename_i hc
        split
        · exact ih h
        · exact ih (by simpa [Ne.symm hc] using h)

theorem return_not_mem_unifyNewlines (t : Text) : '\r' ∉ unifyNewlines t :=
  return_not_mem_unifyFrom List.not_mem_nil

theorem mem_of_mem_stripEnd (h : c ∈ stripEnd t) : c ∈ t := by
  obtain ⟨g, hg, -⟩ := exists_stripEnd_append t
  rw [hg]
  exact List.mem_append_left g h

theorem mem_of_mem_strip (h : c ∈ strip t) : c ∈ t :=
  (List.dropWhile_sublist _).subset (mem_of_mem_stripEnd h)

theorem mem_of_mem_join {sep : Text} {parts : List Text} (h : c ∈ join sep parts) :
    c ∈ sep ∨ ∃ p ∈ parts, c ∈ p := by
  induction parts with
  | nil => cases h
  | cons p parts ih =>
      cases parts with
      | nil => exact .inr ⟨p, by simp, by simpa [join, List.intercalate] using h⟩
      | cons q parts =>
          have hjoin : join sep (p :: q :: parts) = p ++ (sep ++ join sep (q :: parts)) := by
            simp [join, List.intercalate]
          rw [hjoin, List.mem_append, List.mem_append] at h
          rcases h with h | h | h
          · exact .inr ⟨p, List.mem_cons_self, h⟩
          · exact .inl h
          · refine (ih h).imp_right ?_
            rintro ⟨p', hp', hc⟩
            exact ⟨p', List.mem_cons_of_mem p hp', hc⟩

end Text

namespace Solidity

variable {α : Type} {recognise : Recogniser α} {c : Char} {t : Text}

/-- What is left of a text was in it. -/
theorem mem_of_mem_eraseFrom {dropped : α → Bool} {atLine : Bool} (hsound : Sound recognise)
    (h : c ∈ eraseFrom recognise dropped atLine t) : c ∈ t := by
  obtain ⟨p, hp, hc⟩ := List.mem_flatMap.mp h
  rw [← flatMap_raw_piecesFrom hsound atLine t]
  refine List.mem_flatMap.mpr ⟨p, hp, ?_⟩
  cases p with
  | plain => exact hc
  | found raw v =>
      rw [Piece.kept] at hc
      split at hc
      · cases hc
      · exact hc

theorem Header.recognise_sound : Sound Header.recognise := by
  intro t raw line h
  obtain ⟨-, rest, rfl, -⟩ := Header.recognise_eq_some_iff.mp h
  exact List.prefix_append raw rest

theorem mem_of_mem_found {line : Text} (hline : line ∈ found Header.recognise t) (h : c ∈ line) :
    c ∈ t := by
  obtain ⟨raw, t', hp, hrec⟩ := exists_of_mem_found hline
  obtain ⟨rfl, -⟩ := Header.recognise_eq_some_iff.mp hrec
  rw [← flatMap_raw_pieces Header.recognise_sound t]
  exact List.mem_flatMap.mpr ⟨_, hp, Text.mem_of_mem_strip h⟩

end Solidity

namespace Flatten

open Solidity

variable {t : Tree} {roots : Roots} {here : Location} {c : Char}

/-- What is read has no carriage returns. -/
theorem return_not_mem_of_readText {p : Path} {text : Text} (h : t.readText p = .ok text) :
    '\r' ∉ text := by
  unfold Tree.readText at h
  split at h
  · cases h
  · split at h
    · cases h
    · obtain rfl := Except.ok.inj h
      exact Text.return_not_mem_unifyNewlines _

theorem return_not_mem_unlinked : '\r' ∉ unlinked t roots here := by
  rw [unlinked]
  split
  · exact List.not_mem_nil
  · rename_i text htext
    exact fun h => return_not_mem_of_readText htext (mem_of_mem_eraseFrom Import.recognise_sound h)

theorem mem_of_mem_renderHeader {part : Text} (hpart : part ∈ renderHeader t roots here)
    (h : c ∈ part) : c = '\n' ∨ c ∈ unlinked t roots here := by
  rw [renderHeader] at hpart
  split at hpart
  · cases hpart
  · obtain rfl := List.mem_singleton.mp hpart
    obtain ⟨line, hline, hc⟩ := List.mem_flatMap.mp (Text.mem_of_mem_stripEnd h)
    rcases List.mem_append.mp hc with hc | hc
    · exact .inr (mem_of_mem_found hline hc)
    · exact .inl (List.mem_singleton.mp hc)

theorem mem_of_mem_renderFile {name : Text} (h : c ∈ renderFile t roots name here) :
    c ∈ caption name ∨ c = '\n' ∨ c ∈ unlinked t roots here := by
  rw [renderFile_eq] at h
  simp only [List.mem_append, List.mem_cons, List.not_mem_nil, or_false] at h
  rcases h with h | h | h | h
  · exact .inl h
  · exact .inr (.inl h)
  · exact .inr (.inr (mem_of_mem_eraseFrom Header.recognise_sound (Text.mem_of_mem_strip h)))
  · exact .inr (.inl h)

theorem return_not_mem_render {e : Location} {order : List (Text × Location)}
    (h : ∀ s ∈ order ++ [((e.getLast?).getD [], e)], '\r' ∉ s.1) :
    '\r' ∉ render t roots e order := by
  intro hmem
  have hfile : ∀ s ∈ order ++ [((e.getLast?).getD [], e)],
      '\r' ∉ renderFile t roots s.1 s.2 := by
    intro s hs hmem
    rcases mem_of_mem_renderFile hmem with hmem | hmem | hmem
    · rw [caption_eq] at hmem
      exact (List.mem_append.mp hmem).elim (by simp) (h s hs)
    · exact absurd hmem (by decide)
    · exact return_not_mem_unlinked hmem
  rcases Text.mem_of_mem_join (mem_of_mem_shrinkFrom hmem) with hmem | ⟨part, hpart, hmem⟩
  · simp at hmem
  · rw [List.append_assoc, List.mem_append, List.mem_append, List.mem_map,
      List.mem_singleton] at hpart
    rcases hpart with hpart | ⟨s, hs, rfl⟩ | rfl
    · rcases mem_of_mem_renderHeader hpart hmem with hmem | hmem
      · exact absurd hmem (by decide)
      · exact return_not_mem_unlinked hmem
    · exact hfile s (List.mem_append_left _ hs) hmem
    · exact hfile _ (List.mem_append_right order List.mem_cons_self) hmem

/-- The path that an import names was in the text. -/
theorem mem_of_mem_path {text : Text} {i : Import} (hi : i ∈ imports text) (h : c ∈ i.path) :
    c ∈ text := by
  obtain ⟨raw, t', hp, hrec⟩ := exists_of_mem_found hi
  obtain ⟨rest, -, hwritten⟩ := Import.recognise_eq_some_iff.mp hrec
  rw [← flatMap_raw_pieces Import.recognise_sound text]
  refine List.mem_flatMap.mpr ⟨_, hp, ?_⟩
  obtain ⟨-, -, hclause⟩ := hwritten
  obtain ⟨-, -, -, -, -, -, -⟩ := hclause
  simp [Piece.raw, h]

/-- So was the path by which a file was first imported. -/
theorem Walked.return_not_mem_spelling {entry importRoot : Path} {out text : Text} {p : Progress}
    {e r : Location} {order : List (Text × Location)}
    (w : Walked t entry importRoot out p e r text order) : ∀ s ∈ order, '\r' ∉ s.1 := by
  rintro ⟨s, b⟩ hs
  obtain ⟨a, ha⟩ : ∃ a, (s, b) ∈ targets t ⟨r, e.dropLast⟩ a :=
    (w.search.exists_edge hs).elim (fun h => ⟨e, h⟩) id
  rw [targets] at ha
  split at ha
  · cases ha
  · rename_i text' htext
    obtain ⟨i, hi, rfl, -⟩ := mem_links_iff.mp ha
    exact fun hmem => return_not_mem_of_readText htext (mem_of_mem_path hi hmem)

/-- **The result has no carriage returns**, unless files are inlined and the name of the entry has. -/
theorem return_not_mem_of_flattenGraph {depth : Nat} {entry importRoot : Path} {out : Text}
    {e : Location} (h : flattenGraph depth t entry importRoot = .ok out)
    (he : t.resolve entry = .ok e)
    (hname : (walkGraph depth t entry importRoot).2.sections ≠ [] → '\r' ∉ (e.getLast?).getD []) :
    '\r' ∉ out := by
  obtain ⟨e', r, text, order, w⟩ := walked_of_flattenGraph h
  obtain rfl : e' = e := Except.ok.inj (w.entry_eq.symm.trans he)
  rw [w.out_eq]
  split
  · exact return_not_mem_of_readText w.text_eq
  · rename_i hsections
    rw [w.sections, assemble_eq_render]
    refine return_not_mem_render fun s hs => ?_
    rcases List.mem_append.mp hs with hs | hs
    · exact w.return_not_mem_spelling s hs
    · rw [List.mem_singleton.mp hs]
      exact hname hsections

end Flatten

end ContractVerifier
