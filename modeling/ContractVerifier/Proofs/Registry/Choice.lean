import ContractVerifier.Registry.BuiltIn
import Mathlib

set_option autoImplicit false

/-! # A choice is kept

The registry in use is chosen when it is asked for, and it may be forgotten. Between two questions
the files may change, so may the path that is configured, and a question may find less or more of
the stack left for a nested file, so every question comes with all three (`Event.asked`). `history`
is what such a course of events leaves: the choice, and all answers.

What is chosen is the first registry that there was to choose since the last time it was forgotten
(`fst_history`). The answers follow from that (`choice_kept`).
-/

namespace ContractVerifier.Registry

/-- The registry that is there to choose: that of the configured file, in which values may be nested
`depth` deep, or the built-in one if no file is configured. -/
def configured (t : Tree) (path : Option Text) (depth : Nat) : Except Fault Registry :=
  match path.filter (· ≠ []) with
  | none => .ok builtIn
  | some p => load t p depth

/-- What can happen to the choice. -/
inductive Event where
  /-- The registry is asked for, with these files, this path configured and this depth to read. -/
  | asked (t : Tree) (path : Option Text) (depth : Nat)
  | forgotten

/-- What there is to choose at an event, if the registry is asked for. -/
def Event.offer? : Event → Option (Except Fault Registry)
  | asked t path depth => some (configured t path depth)
  | forgotten => none

/-- The choice after an event, with the answers until then. -/
def attend (s : Chosen × List (Except Fault Registry)) :
    Event → Chosen × List (Except Fault Registry)
  | .asked t path depth => ((choose t path s.1 depth).2, s.2 ++ [(choose t path s.1 depth).1])
  | .forgotten => (none, s.2)

/-- The choice after some events, if none was made before them, with all answers in order. -/
def history (events : List Event) : Chosen × List (Except Fault Registry) :=
  events.foldl attend (none, [])

/-- What there was to choose since the registry was forgotten last, at each question. -/
def offers (events : List Event) : List (Except Fault Registry) :=
  (events.rtakeWhile (·.offer?.isSome)).filterMap Event.offer?

/-- The registry that the first question since then that could be answered was answered with. -/
def firstOffer (events : List Event) : Option Registry := (offers events).findSome? Except.toOption

variable {events : List Event} {t : Tree} {path : Option Text} {depth : Nat}

/-! ## One question -/

theorem choose_none (t : Tree) (path : Option Text) (depth : Nat) :
    choose t path none depth = (configured t path depth, (configured t path depth).toOption) := by
  unfold choose configured
  cases path.filter (· ≠ []) with
  | none => rfl
  | some p =>
      simp only
      cases load t p depth with
      | ok r => rfl
      | error fault => rfl

/-- The answer is what was chosen before, or else what is there to choose. -/
theorem choose_eq (t : Tree) (path : Option Text) (depth : Nat) (chosen : Chosen) :
    choose t path chosen depth = (chosen.elim (configured t path depth) .ok,
      chosen.or (configured t path depth).toOption) := by
  cases chosen with
  | none => exact choose_none t path depth
  | some r => exact choose_some t path r depth

/-! ## Many questions -/

theorem history_concat (events : List Event) (e : Event) :
    history (events ++ [e]) = attend (history events) e := by
  rw [history, List.foldl_append]
  rfl

theorem firstOffer_forgotten (events : List Event) : firstOffer (events ++ [.forgotten]) = none := by
  rw [firstOffer, offers, List.rtakeWhile_concat, if_neg (by simp [Event.offer?])]
  rfl

theorem firstOffer_asked (events : List Event) (t : Tree) (path : Option Text) (depth : Nat) :
    firstOffer (events ++ [.asked t path depth]) =
      (firstOffer events).or (configured t path depth).toOption := by
  have hasked : (Event.asked t path depth).offer?.isSome = true := rfl
  rw [firstOffer, offers, List.rtakeWhile_concat, if_pos hasked, List.filterMap_append,
    List.findSome?_append]
  show (firstOffer events).or (List.findSome? Except.toOption [configured t path depth]) = _
  rw [List.findSome?_singleton]

/-- **What is chosen is the first that there was to choose** since the registry was forgotten. -/
theorem fst_history (events : List Event) : (history events).1 = firstOffer events := by
  induction events using List.reverseRecOn with
  | nil => rfl
  | append_singleton events e ih =>
      rw [history_concat]
      cases e with
      | forgotten => exact (firstOffer_forgotten events).symm
      | asked t path depth =>
          rw [firstOffer_asked, ← ih]
          show (choose t path (history events).1 depth).2 = _
          rw [choose_eq]

/-- One more question is answered with the first offer, or with what there is if there was none. -/
theorem history_asked (events : List Event) (t : Tree) (path : Option Text) (depth : Nat) :
    history (events ++ [.asked t path depth]) =
      ((firstOffer events).or (configured t path depth).toOption,
        (history events).2 ++ [(firstOffer events).elim (configured t path depth) .ok]) := by
  rw [history_concat, ← fst_history]
  show ((choose t path (history events).1 depth).2,
    (history events).2 ++ [(choose t path (history events).1 depth).1]) = _
  rw [choose_eq]

/-- **A choice is kept until it is forgotten, and a failure leaves no trace.** Whatever happened before,
a question is answered with the registry that was chosen first since the last time it was forgotten,
if there is one, and otherwise with what is configured. If it fails nothing is chosen, so the next
question is answered with what is configured then; and every question is answered that there is a
registry for. -/
theorem choice_kept (events : List Event) (t : Tree) (path : Option Text) (depth : Nat) :
    ∃ answer, (history (events ++ [.asked t path depth])).2 = (history events).2 ++ [answer] ∧
      (∀ r, firstOffer events = some r → answer = .ok r) ∧
      (firstOffer events = none → answer = configured t path depth) ∧
      (∀ fault, answer = .error fault →
        (history (events ++ [.asked t path depth])).1 = none ∧
        ∀ t' path' depth',
          (history (events ++ [.asked t path depth] ++ [.asked t' path' depth'])).2 =
            (history (events ++ [.asked t path depth])).2 ++ [configured t' path' depth']) ∧
      ((∃ r, configured t path depth = .ok r) → ∃ r, answer = .ok r) := by
  refine ⟨(firstOffer events).elim (configured t path depth) .ok, ?_, ?_, ?_, ?_, ?_⟩
  · rw [history_asked]
  · intro r hfirst
    rw [hfirst]
    rfl
  · intro hfirst
    rw [hfirst]
    rfl
  · intro fault hfault
    -- a question that fails offers nothing, so the next one is again the first
    have hnone : firstOffer (events ++ [.asked t path depth]) = none := by
      rw [firstOffer_asked]
      cases hfirst : firstOffer events with
      | some r =>
          rw [hfirst] at hfault
          cases hfault
      | none =>
          rw [hfirst, Option.elim_none] at hfault
          rw [hfault]
          rfl
    constructor
    · rw [fst_history, hnone]
    · intro t' path' depth'
      rw [history_asked _ t' path' depth', hnone]
      rfl
  · rintro ⟨r, hr⟩
    cases firstOffer events with
    | none => exact ⟨r, hr⟩
    | some first => exact ⟨first, rfl⟩

/-- A file that cannot be read at first and is mended then gives a registry, which is kept though it
is empty, the file is spoilt again, and no file is configured any more. -/
theorem choice_kept_mended :
    let spoilt : Tree := ⟨[([['r']], .file [])]⟩
    let mended : Tree := ⟨[([['r']], .file (Utf8.encode "\x7b\"entries\": \x7b\x7d\x7d".toList))]⟩
    let path := some "/r".toList
    let events : List Event :=
      [.asked spoilt path Json.usualDepth, .asked mended path Json.usualDepth]
    let empty : Registry := ⟨['r'], ['0'], []⟩
    firstOffer [.asked spoilt path Json.usualDepth] = none ∧ firstOffer events = some empty ∧
      (history (events ++ [.asked spoilt none Json.usualDepth])).2 =
        (history events).2 ++ [.ok empty] := by
  intro spoilt mended path events empty
  have hspoilt : firstOffer [.asked spoilt path Json.usualDepth] = none := by cbv
  have hmended : firstOffer events = some empty := by cbv
  obtain ⟨answer, hanswer, hkept, -⟩ := choice_kept events spoilt none Json.usualDepth
  refine ⟨hspoilt, hmended, ?_⟩
  rw [hanswer, hkept empty hmended]

end ContractVerifier.Registry
