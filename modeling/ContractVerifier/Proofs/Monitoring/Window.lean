import ContractVerifier.Monitoring.Tracker
import Mathlib.Data.List.DropRight
import Mathlib.Tactic

set_option autoImplicit false

/-! # The history is a window

A tracker sees errors come in and is cleared from time to time. `Tracker.run` is what becomes of it,
and `Tracker.sinceClear` is all that was tracked since it was cleared last, whatever it remembers.

A bound above zero makes the tracker's records a window over that history: the latest of it, as many
as the bound says. A bound of zero makes them the whole history (`Tracker.records_run_iff`).
-/

namespace ContractVerifier.Tracker

/-- What can happen to a tracker. -/
inductive Event where
  | tracked (fault : Fault) (path : Option Text) (now : Text)
  | cleared

/-- The record that an event leaves. -/
def Event.record? : Event → Option ErrorRecord
  | tracked fault path now => some (.ofFault fault path now)
  | cleared => none

/-- The tracker after an event. -/
def react (t : Tracker) : Event → Tracker
  | .tracked fault path now => t.track fault path now
  | .cleared => t.clear

/-- The tracker after some events, one after another. -/
def run (t : Tracker) (events : List Event) : Tracker := events.foldl react t

/-- The records of all errors that were tracked since the last clear, oldest first. -/
def sinceClear (events : List Event) : List ErrorRecord :=
  (events.rtakeWhile (·.record?.isSome)).filterMap Event.record?

variable {t : Tracker} {events : List Event}

theorem run_concat (t : Tracker) (events : List Event) (e : Event) :
    t.run (events ++ [e]) = (t.run events).react e := by
  rw [run, List.foldl_append]
  rfl

theorem sinceClear_nil : sinceClear [] = [] := rfl

theorem sinceClear_tracked (events : List Event) (fault : Fault) (path : Option Text)
    (now : Text) : sinceClear (events ++ [.tracked fault path now]) =
      sinceClear events ++ [.ofFault fault path now] := by
  have hrecord : (Event.tracked fault path now).record?.isSome = true := rfl
  rw [sinceClear, List.rtakeWhile_concat, if_pos hrecord, List.filterMap_append]
  rfl

theorem sinceClear_cleared (events : List Event) : sinceClear (events ++ [.cleared]) = [] := by
  rw [sinceClear, List.rtakeWhile_concat, if_neg (by decide)]
  rfl

/-! ## What a bound leaves -/

/-- What is remembered of a history. -/
def window (max : Nat) (history : List ErrorRecord) : List ErrorRecord :=
  if max = 0 then history else history.rtake max

theorem drop_excess (max : Nat) (history : List ErrorRecord) :
    history.drop (excess max history.length) = window max history := by
  rw [excess, window]
  by_cases hmax : max = 0
  · -- without a bound nothing is dropped, in either case of `excess`
    subst hmax
    simp
  · have hpos : (0 : Int) < max := by omega
    rw [if_neg hmax, if_pos hpos, List.rtake]
    split
    · rename_i hfits
      have hall : history.length - max = 0 := by omega
      rw [hall]
    · rfl

/-- What a window lets go can be let go at once. -/
theorem window_window_concat (max : Nat) (history : List ErrorRecord) (r : ErrorRecord) :
    window max (window max history ++ [r]) = window max (history ++ [r]) := by
  cases max with
  | zero => rfl
  | succ max =>
      have hagain : (history.rtake (max + 1)).rtake max = history.rtake max := by
        rw [List.rtake, List.rtake, List.rtake, List.drop_drop, List.length_drop]
        congr 1
        omega
      simp only [window, if_neg (Nat.succ_ne_zero max), List.rtake_concat_succ, hagain]

/-! ## Runs -/

theorem maxErrors_react (t : Tracker) (e : Event) : (t.react e).maxErrors = t.maxErrors := by
  cases e <;> rfl

@[simp] theorem maxErrors_run (t : Tracker) (events : List Event) :
    (t.run events).maxErrors = t.maxErrors := by
  induction events using List.reverseRecOn with
  | nil => rfl
  | append_singleton events e ih => rw [run_concat, maxErrors_react, ih]

/-- One more error moves the window. -/
theorem records_track {max : Nat} (hmax : t.maxErrors = max) (fault : Fault)
    (path : Option Text) (now : Text) :
    (t.track fault path now).records = window max (t.records ++ [.ofFault fault path now]) := by
  rw [← drop_excess, ← hmax]
  rfl

/-- **What is remembered is the window over what was tracked**, whenever the tracker was cleared. -/
theorem records_run (max : Nat) (events : List Event) :
    (run { maxErrors := max } events).records = window max (sinceClear events) := by
  induction events using List.reverseRecOn with
  | nil =>
      rw [sinceClear_nil, window, List.rtake_nil, ite_self]
      rfl
  | append_singleton events e ih =>
      rw [run_concat]
      cases e with
      | tracked fault path now =>
          rw [react, records_track (maxErrors_run _ _), ih, window_window_concat,
            sinceClear_tracked]
      | cleared =>
          rw [sinceClear_cleared, window, List.rtake_nil, ite_self]
          rfl

/-- **The history is a bounded window exactly if its bound is above zero.** Then the latest errors
are remembered, oldest first, as many as the bound says or as there are since the last clear; with a
bound of zero none is ever dropped. -/
theorem records_run_iff (max : Nat) (events : List Event) :
    let stored := (run { maxErrors := max } events).records
    let tracked := sinceClear events
    stored = (if max = 0 then tracked else tracked.rtake (min tracked.length max)) ∧
      (stored = tracked.rtake (min tracked.length max) ↔ 0 < max ∨ tracked = []) ∧
      (stored.length ≤ max ↔ 0 < max ∨ tracked = []) := by
  intro stored tracked
  have hmin : tracked.rtake (min tracked.length max) = tracked.rtake max := by
    rw [List.rtake, List.rtake]
    congr 1
    omega
  have hstored : stored = if max = 0 then tracked else tracked.rtake max := records_run max events
  rw [hmin]
  refine ⟨hstored, ?_⟩
  rw [hstored]
  by_cases hmax : max = 0
  · subst hmax
    simp
  · have hpos : 0 < max := Nat.pos_of_ne_zero hmax
    have hlength : (tracked.rtake max).length ≤ max := by
      rw [List.rtake, List.length_drop]
      omega
    rw [if_neg hmax]
    exact ⟨iff_of_true rfl (.inl hpos), iff_of_true hlength (.inl hpos)⟩

/-- A tracker that is to remember nothing remembers every error. -/
theorem zero_drops_nothing :
    let event : Event := .tracked (.foreign "ValueError" ['v']) none ['t']
    let stored := (run { maxErrors := 0 } [event, event]).records
    stored ≠ (sinceClear [event, event]).rtake (min 2 0) ∧ stored.length = 2 := by
  decide

end ContractVerifier.Tracker
