import ContractVerifier.Proofs.Json.Members
import ContractVerifier.Proofs.Monitoring.Window

set_option autoImplicit false

/-! # The counts are exact

A tracker forgets records, and it counts all errors. Whatever its bound is, its counts are those of
the whole history since it was cleared last (`Tracker.get?_counts_run`), and its records are an end of
that history (`Tracker.records_suffix`). So no count is below what the records show.

The statistics can be asked for at any time. `Tracker.converse` is what becomes of a tracker that
errors come in to, that is cleared and that is asked, in any order, and `Tracker.counts_exact` says
what it tells. The records among it can be read back: no two are shown alike
(`ErrorRecord.IsShownAs.unique`).
-/

namespace ContractVerifier

/-- The sum of all values changes as the value that is put does. -/
theorem Association.sum_put {α : Type} [DecidableEq α] (key : α) (value : Nat)
    (pairs : List (α × Nat)) :
    ((put key value pairs).map Prod.snd).sum + (get? key pairs).getD 0 =
      (pairs.map Prod.snd).sum + value := by
  induction pairs with
  | nil => simp [put, get?]
  | cons pair rest ih =>
      obtain ⟨k, v⟩ := pair
      by_cases hk : k = key
      · simp only [put, get?, if_pos hk, List.map_cons, List.sum_cons, Option.getD_some]
        omega
      · simp only [put, get?, if_neg hk, List.map_cons, List.sum_cons]
        omega

/-! ## What is shown of a record -/

theorem ErrorCode.text_injective : Function.Injective ErrorCode.text := by
  intro c d h
  cases c <;> cases d <;> first | rfl | exact absurd h (by decide)

namespace ErrorRecord

/-- A value that shows a record: its type, message, path and time, and a code if it has one. -/
structure IsShownAs (r : ErrorRecord) (shown : Json) : Prop where
  type : shown.member? "type" = some (.string r.kind)
  message : shown.member? "message" = some (.text r.message)
  path : shown.member? "path" = some (r.path.elim .null .text)
  timestamp : shown.member? "timestamp" = some (.text r.timestamp)
  code : shown.member? "code" = r.code.map fun c => .string c.text

theorem isShownAs_toJson (r : ErrorRecord) : r.IsShownAs r.toJson := by
  unfold toJson
  constructor <;> rw [Json.member?_ofMembers]
  · rfl
  · rfl
  · rfl
  · rfl
  · cases r.code <;> rfl

/-- A value shows one record only. -/
theorem IsShownAs.unique {r s : ErrorRecord} {shown : Json} (hr : r.IsShownAs shown)
    (hs : s.IsShownAs shown) : r = s := by
  have hkind : r.kind = s.kind := by
    have htype := Option.some.inj (hr.type.symm.trans hs.type)
    exact String.toList_injective (Json.text.inj htype)
  have hmessage : r.message = s.message :=
    Json.text.inj (Option.some.inj (hr.message.symm.trans hs.message))
  have hpath : r.path = s.path := by
    -- a record without a path shows `null`, which no text is
    have hshown := Option.some.inj (hr.path.symm.trans hs.path)
    cases hrp : r.path <;> cases hsp : s.path <;> simp_all [Option.elim]
  have htimestamp : r.timestamp = s.timestamp :=
    Json.text.inj (Option.some.inj (hr.timestamp.symm.trans hs.timestamp))
  have hcode : r.code = s.code := by
    have hinjective : Function.Injective fun c : ErrorCode => Json.string c.text := by
      intro c d h
      exact ErrorCode.text_injective (String.toList_injective (Json.text.inj h))
    exact Option.map_injective hinjective (hr.code.symm.trans hs.code)
  obtain ⟨kind, message, path, timestamp, code⟩ := r
  simp only at hkind hmessage hpath htimestamp hcode
  subst hkind hmessage hpath htimestamp hcode
  rfl

end ErrorRecord

namespace Tracker

variable {t : Tracker}

/-- How many of some records are of a kind. -/
def countOf (kind : String) (history : List ErrorRecord) : Nat :=
  history.countP fun r => r.kind = kind

theorem countOf_concat (kind : String) (history : List ErrorRecord) (r : ErrorRecord) :
    countOf kind (history ++ [r]) = countOf kind history + if r.kind = kind then 1 else 0 := by
  rw [countOf, List.countP_append, List.countP_singleton, countOf]
  simp only [decide_eq_true_eq]

/-! ## Counts -/

/-- One more error raises the count of its kind. -/
theorem get?_counts_track (t : Tracker) (fault : Fault) (path : Option Text) (now : Text)
    (kind : String) :
    (Association.get? kind (t.track fault path now).counts).getD 0 =
      (Association.get? kind t.counts).getD 0 + if fault.kind = kind then 1 else 0 := by
  show (Association.get? kind (Association.put fault.kind _ t.counts)).getD 0 = _
  by_cases hkind : fault.kind = kind
  · subst hkind
    rw [Association.get?_put, if_pos rfl, Option.getD_some]
  · rw [Association.get?_put_of_ne (Ne.symm hkind), if_neg hkind, Nat.add_zero]

/-- One more error raises the sum of all counts. -/
theorem sum_counts_track (t : Tracker) (fault : Fault) (path : Option Text) (now : Text) :
    ((t.track fault path now).counts.map Prod.snd).sum = (t.counts.map Prod.snd).sum + 1 := by
  show ((Association.put fault.kind _ t.counts).map Prod.snd).sum = _
  have hput := Association.sum_put fault.kind
    ((Association.get? fault.kind t.counts).getD 0 + 1) t.counts
  omega

/-- A kind that is counted was counted at least once. -/
theorem counts_pos (max : Int) (events : List Event) (kind : String) :
    Association.get? kind (run { maxErrors := max } events).counts ≠ some 0 := by
  induction events using List.reverseRecOn with
  | nil => nofun
  | append_singleton events e ih =>
      rw [run_concat]
      cases e with
      | cleared => nofun
      | tracked fault path now =>
          -- the kind that is put has one more than before, and no other kind is touched
          show Association.get? kind (Association.put fault.kind _ _) ≠ some 0
          by_cases hkind : kind = fault.kind
          · subst hkind
            simp
          · rw [Association.get?_put_of_ne hkind]
            exact ih

/-- **The count of a kind is how often it was tracked since the last clear.** -/
theorem getD_counts_run (max : Int) (events : List Event) (kind : String) :
    (Association.get? kind (run { maxErrors := max } events).counts).getD 0 =
      countOf kind (sinceClear events) := by
  induction events using List.reverseRecOn with
  | nil => rfl
  | append_singleton events e ih =>
      rw [run_concat]
      cases e with
      | cleared =>
          rw [sinceClear_cleared]
          rfl
      | tracked fault path now =>
          rw [react, get?_counts_track, ih, sinceClear_tracked, countOf_concat]
          rfl

/-- A kind that was not tracked since the last clear has no count at all. -/
theorem get?_counts_run (max : Int) (events : List Event) (kind : String) :
    Association.get? kind (run { maxErrors := max } events).counts =
      if countOf kind (sinceClear events) = 0 then none
      else some (countOf kind (sinceClear events)) := by
  have hcount := getD_counts_run max events kind
  have hpos := counts_pos max events kind
  cases hget : Association.get? kind (run { maxErrors := max } events).counts with
  | none =>
      rw [hget, Option.getD_none] at hcount
      rw [if_pos hcount.symm]
  | some n =>
      rw [hget, Option.getD_some] at hcount
      rw [hget] at hpos
      have hn : n ≠ 0 := fun h => hpos (by rw [h])
      rw [← hcount, if_neg hn]

/-- All counts together are as many as the errors since the last clear. -/
theorem sum_counts_run (max : Int) (events : List Event) :
    ((run { maxErrors := max } events).counts.map Prod.snd).sum = (sinceClear events).length := by
  induction events using List.reverseRecOn with
  | nil => rfl
  | append_singleton events e ih =>
      rw [run_concat]
      cases e with
      | cleared =>
          rw [sinceClear_cleared]
          rfl
      | tracked fault path now =>
          rw [sinceClear_tracked, List.length_append, List.length_singleton, ← ih]
          exact sum_counts_track _ fault path now

/-! ## Records -/

/-- What is remembered is an end of what was tracked, for any bound. -/
theorem records_suffix (max : Int) (events : List Event) :
    (run { maxErrors := max } events).records <:+ sinceClear events := by
  induction events using List.reverseRecOn with
  | nil => exact List.suffix_refl _
  | append_singleton events e ih =>
      rw [run_concat]
      cases e with
      | cleared => exact List.nil_suffix
      | tracked fault path now =>
          obtain ⟨forgotten, hall⟩ := ih
          rw [sinceClear_tracked, ← hall, List.append_assoc]
          -- the record comes behind what was remembered, and then the front is cut
          exact (List.drop_suffix _ _).trans (List.suffix_append _ _)

/-- The records shown are the last ten, or all if there are fewer. -/
theorem recent_eq (t : Tracker) : t.recent = t.records.rtake (min 10 t.records.length) := by
  have hfirst : t.records.length - 10 = t.records.length - min 10 t.records.length := by omega
  show t.records.drop (t.records.length - 10) = _
  rw [hfirst]
  rfl

/-! ## Asking for the statistics -/

theorem member?_countsJson (t : Tracker) (kind : String) :
    t.countsJson.member? kind = (Association.get? kind t.counts).map fun n : Nat => Json.int n := by
  show Association.get? kind.toList (t.counts.map fun c => (c.1.toList, Json.int c.2)) = _
  induction t.counts with
  | nil => rfl
  | cons c rest ih =>
      by_cases hkind : c.1 = kind
      · simp only [List.map_cons, Association.get?, hkind, if_true, Option.map_some]
      · have hname : ¬ c.1.toList = kind.toList := fun h => hkind (String.toList_injective h)
        simp only [List.map_cons, Association.get?, if_neg hkind, if_neg hname, ih]

/-- Statistics that tell what a tracker knows: how many errors are stored, the counts, and the last ten
records, oldest first, each with all that is known of it. -/
structure Tells (t : Tracker) (stats : Json) : Prop where
  total : stats.member? "total_errors" = some (.int t.records.length)
  counts : ∃ counts, stats.member? "error_counts" = some counts ∧
    ∀ kind, counts.member? kind = (Association.get? kind t.counts).map fun n : Nat => Json.int n
  recent : stats.member? "recent_errors" = some (.list
    ((t.records.rtake (min 10 t.records.length)).map ErrorRecord.toJson))
  shown : ∃ shown, stats.member? "recent_errors" = some (.list shown) ∧
    List.Forall₂ ErrorRecord.IsShownAs (t.records.rtake (min 10 t.records.length)) shown

theorem tells_stats (t : Tracker) (now : Text) : t.Tells (t.stats now) := by
  have hrecent : (t.stats now).member? "recent_errors" = some (.list
      ((t.records.rtake (min 10 t.records.length)).map ErrorRecord.toJson)) := by
    rw [stats, Json.member?_ofMembers, ← recent_eq]
    rfl
  constructor
  · rw [stats, Json.member?_ofMembers]
    rfl
  · refine ⟨t.countsJson, ?_, member?_countsJson t⟩
    rw [stats, Json.member?_ofMembers]
    rfl
  · exact hrecent
  · refine ⟨_, hrecent, ?_⟩
    rw [List.forall₂_map_right_iff, List.forall₂_same]
    exact fun r _ => r.isShownAs_toJson

/-- What is done to a tracker, or asked of it. -/
inductive Use where
  | event (e : Event)
  | stats (now : Text)

/-- The event that a use is, if it is one. -/
def Use.event? : Use → Option Event
  | event e => some e
  | stats _ => none

/-- The tracker after a use, with the statistics that were told until then. -/
def use (told : Tracker × List Json) : Use → Tracker × List Json
  | .event e => (told.1.react e, told.2)
  | .stats now => (told.1, told.2 ++ [told.1.stats now])

/-- The tracker after some uses, one after another, with all statistics that it told, in order. -/
def converse (t : Tracker) (uses : List Use) : Tracker × List Json := uses.foldl use (t, [])

theorem converse_concat (t : Tracker) (uses : List Use) (u : Use) :
    t.converse (uses ++ [u]) = use (t.converse uses) u := by
  rw [converse, List.foldl_append]
  rfl

/-- A tracker that is asked is what it would be if nobody had asked. -/
theorem fst_converse (t : Tracker) (uses : List Use) :
    (t.converse uses).1 = t.run (uses.filterMap Use.event?) := by
  induction uses using List.reverseRecOn with
  | nil => rfl
  | append_singleton uses u ih =>
      rw [converse_concat, List.filterMap_append]
      cases u with
      | event e =>
          show (t.converse uses).1.react e = _
          rw [ih]
          exact (run_concat t _ e).symm
      | stats now =>
          show (t.converse uses).1 = _
          rw [ih]
          exact congrArg t.run (List.append_nil _).symm

/-- **The counts are exact whatever was forgotten**, for every bound and after any uses. A tracker
that was asked for its statistics is what it would be otherwise. It counts of each kind how often it
was tracked since the last clear, and nothing of a kind that was not; the counts together are no fewer
than the stored errors, and neither are those of one kind; and this is what it tells. -/
theorem counts_exact (max : Int) (uses : List Use) (now : Text) :
    let before := converse { maxErrors := max } uses
    let asked := converse { maxErrors := max } (uses ++ [.stats now])
    let tracker := asked.1
    let tracked := sinceClear (uses.filterMap Use.event?)
    tracker = before.1 ∧ tracker = run { maxErrors := max } (uses.filterMap Use.event?) ∧
      (∀ kind, Association.get? kind tracker.counts =
        if countOf kind tracked = 0 then none else some (countOf kind tracked)) ∧
      tracker.records.length ≤ (tracker.counts.map Prod.snd).sum ∧
      (∀ kind, countOf kind tracker.records ≤ (Association.get? kind tracker.counts).getD 0) ∧
      ∃ stats, asked.2 = before.2 ++ [stats] ∧ tracker.Tells stats := by
  intro before asked tracker tracked
  have hasked : asked = (before.1, before.2 ++ [before.1.stats now]) := converse_concat _ _ _
  have hsame : tracker = before.1 := by
    show asked.1 = _
    rw [hasked]
  have htracker : tracker = run { maxErrors := max } (uses.filterMap Use.event?) :=
    hsame.trans (fst_converse _ _)
  have hstored : tracker.records <:+ tracked := htracker ▸ records_suffix max _
  have hsum : (tracker.counts.map Prod.snd).sum = tracked.length := htracker ▸ sum_counts_run max _
  refine ⟨hsame, htracker, ?_, ?_, ?_, tracker.stats now, ?_, tells_stats tracker now⟩
  · intro kind
    rw [htracker]
    exact get?_counts_run max _ kind
  · rw [hsum]
    exact hstored.length_le
  · intro kind
    calc countOf kind tracker.records
        ≤ countOf kind tracked := hstored.sublist.countP_le
      _ = (Association.get? kind tracker.counts).getD 0 := by
          rw [htracker]
          exact (getD_counts_run max _ kind).symm
  · rw [hasked, hsame]

end Tracker

end ContractVerifier
