import ContractVerifier.Json.Reader
import ContractVerifier.Proofs.Json.Members
import ContractVerifier.Proofs.Text.Splitting

set_option autoImplicit false

/-! # Messages that can be sent

A value can be sent if its texts are whole: none of them holds a half of a pair without the other
one. The message of a read error is whole, whatever bytes were read (`isWhole_of_readBytes`), so
that it can be sent to a client.
-/

namespace ContractVerifier

/-! ## Whole texts -/

namespace Text

/-- The text holds no half of a pair, so that it has bytes. -/
def IsWhole (t : Text) : Prop := ∀ c ∈ t, isHalf c = false

instance : DecidablePred IsWhole := fun t =>
  decidable_of_iff (t.all fun c => !isHalf c) (by simp [IsWhole])

theorem isWhole_nil : IsWhole [] := by
  nofun

theorem isWhole_append {s t : Text} : IsWhole (s ++ t) ↔ IsWhole s ∧ IsWhole t :=
  List.forall_mem_append

theorem isWhole_cons {c : Char} {t : Text} : IsWhole (c :: t) ↔ isHalf c = false ∧ IsWhole t :=
  List.forall_mem_cons

theorem isWhole_flatMap {t : Text} {f : Char → Text} (h : ∀ c ∈ t, IsWhole (f c)) :
    IsWhole (t.flatMap f) := by
  intro c hc
  obtain ⟨d, hd, hc⟩ := List.mem_flatMap.mp hc
  exact h d hd c hc

theorem isWhole_join {parts : List Text} {sep : Char} (hsep : isHalf sep = false)
    (h : ∀ p ∈ parts, IsWhole p) : IsWhole (join [sep] parts) := by
  intro c hc
  rcases mem_join hc with rfl | ⟨p, hp, hc⟩
  · exact hsep
  · exact h p hp c hc

theorem isHalf_of_lt {c : Char} (h : c.toNat < 0x100000) : isHalf c = false := by
  simp only [isHalf, isHalfCode, Bool.and_eq_false_imp, decide_eq_true_eq]
  omega

theorem isHalf_of_isDigit {c : Char} (h : c.isDigit) : isHalf c = false := by
  refine isHalf_of_lt ?_
  rw [Char.isDigit, Bool.and_eq_true, decide_eq_true_eq, decide_eq_true_eq] at h
  have hle : c.toNat ≤ 57 := h.2
  omega

theorem isHalf_digitChar {n : Nat} (h : n < 16) : isHalf (Nat.digitChar n) = false := by
  have hall : ∀ n < 16, isHalf (Nat.digitChar n) = false := by decide +kernel
  exact hall n h

theorem isWhole_toString (n : Nat) : IsWhole (toString n).toList := by
  intro c hc
  have hdigits : c ∈ Nat.toDigits 10 n := by
    rw [← Nat.toList_repr]
    exact hc
  exact isHalf_of_isDigit (Nat.isDigit_of_mem_toDigits (by omega) le_rfl hdigits)

/-- A half cannot be shown as it is. -/
theorem isHalf_of_isPrintable {c : Char} (h : isPrintable c) : isHalf c = false := by
  by_contra hhalf
  rw [Bool.not_eq_false, isHalf, isHalfCode, Bool.and_eq_true, decide_eq_true_eq,
    decide_eq_true_eq] at hhalf
  have htable : inTable unprintablesBeyondAscii c = true := by
    refine List.any_eq_true.mpr ⟨(0xE01F0, 0x10FFFF), by decide +kernel, ?_⟩
    rw [Bool.and_eq_true, decide_eq_true_eq, decide_eq_true_eq]
    omega
  rw [isPrintable, if_neg (by omega), htable] at h
  cases h

theorem isWhole_toDigits (n : Nat) : IsWhole (Nat.toDigits 16 n) := by
  induction n using Nat.strong_induction_on with
  | _ n ih =>
    rw [Nat.toDigits_eq_if (by omega)]
    split
    case isTrue hlt => exact isWhole_cons.mpr ⟨isHalf_digitChar hlt, isWhole_nil⟩
    case isFalse hle =>
      have hlast := isHalf_digitChar (Nat.mod_lt n (by omega : 0 < 16))
      exact isWhole_append.mpr ⟨ih _ (by omega), isWhole_cons.mpr ⟨hlast, isWhole_nil⟩⟩

theorem isWhole_hexPadded (width n : Nat) : IsWhole (hexPadded width n) := by
  refine isWhole_append.mpr ⟨fun c hc => ?_, isWhole_toDigits n⟩
  rw [List.eq_of_mem_replicate hc]
  decide

theorem isWhole_codeEscape (c : Char) : IsWhole (codeEscape c) := by
  have hletter : ∀ letter, isHalf letter = false → ∀ width,
      IsWhole ('\\' :: letter :: hexPadded width (code c)) := fun letter h width =>
    isWhole_cons.mpr ⟨by decide, isWhole_cons.mpr ⟨h, isWhole_hexPadded width (code c)⟩⟩
  simp only [codeEscape]
  split_ifs
  · exact hletter 'x' (by decide) 2
  · exact hletter 'u' (by decide) 4
  · exact hletter 'U' (by decide) 8

theorem isWhole_escapeChar {quote : Char} (hquote : isHalf quote = false) (c : Char) :
    IsWhole (escapeChar quote c) := by
  rw [escapeChar]
  split_ifs with hsame hfeed hreturn htab hprintable
  · obtain rfl | rfl := hsame
    · exact isWhole_cons.mpr ⟨by decide, isWhole_cons.mpr ⟨hquote, isWhole_nil⟩⟩
    · decide
  · decide
  · decide
  · decide
  · exact isWhole_cons.mpr ⟨isHalf_of_isPrintable hprintable, isWhole_nil⟩
  · exact isWhole_codeEscape c

/-- Quoting makes every text whole. -/
theorem isWhole_quoted (t : Text) : IsWhole (quoted t) := by
  have hquote : isHalf (if t.contains '\'' && !t.contains '"' then '"' else '\'') = false := by
    split <;> decide
  refine isWhole_cons.mpr ⟨hquote, isWhole_append.mpr ⟨?_, isWhole_cons.mpr ⟨hquote, isWhole_nil⟩⟩⟩
  exact isWhole_flatMap fun c _ => isWhole_escapeChar hquote c

end Text

/-! ## Messages -/

open Text

theorem isWhole_hexByte (n : UInt8) : IsWhole (hexByte n.toNat).toList := by
  have hlt := n.toNat_lt
  rw [hexByte, String.toList_ofList]
  exact isWhole_cons.mpr ⟨isHalf_digitChar (by omega),
    isWhole_cons.mpr ⟨isHalf_digitChar (by omega), isWhole_nil⟩⟩

/-- The message of an error in decoding is whole if the name of the encoding is. -/
theorem DecodeError.isWhole_message {e : DecodeError} (h : IsWhole e.encoding.toList) :
    IsWhole e.message.toList := by
  have hreason : IsWhole e.flaw.reason.toList := by
    cases e.flaw <;> decide
  simp only [DecodeError.message, String.toList_append, isWhole_append]
  refine ⟨⟨⟨⟨⟨by decide, h⟩, by decide⟩, ?place⟩, by decide⟩, hreason⟩
  split <;> simp only [String.toList_append, isWhole_append]
  · exact ⟨⟨⟨by decide, isWhole_hexByte _⟩, by decide⟩, isWhole_toString _⟩
  · exact ⟨⟨⟨by decide, isWhole_toString _⟩, by decide⟩, isWhole_toString _⟩

theorem Number.IntError.isWhole_message (e : Number.IntError) : IsWhole e.message.toList := by
  cases e with
  | malformed t =>
      show IsWhole ("invalid literal for int() with base 10: " ++
        String.ofList ((quoted t).take 200)).toList
      rw [String.toList_append, isWhole_append]
      refine ⟨by decide, fun c hc => ?_⟩
      rw [String.toList_ofList] at hc
      exact isWhole_quoted t c (List.mem_of_mem_take hc)
  | tooLong digits =>
      show IsWhole ("Exceeds the limit (4300 digits) for integer string conversion: value has " ++
        toString digits ++
          " digits; use sys.set_int_max_str_digits() to increase the limit").toList
      rw [String.toList_append, String.toList_append, isWhole_append, isWhole_append]
      exact ⟨⟨by decide, isWhole_toString digits⟩, by decide⟩

theorem Number.IntError.message_ne_nil (e : Number.IntError) : e.message.toList ≠ [] := by
  cases e with
  | malformed t =>
      show ("invalid literal for int() with base 10: " ++ _).toList ≠ []
      rw [String.toList_append]
      exact List.append_ne_nil_of_left_ne_nil (by decide) _
  | tooLong digits =>
      show ("Exceeds the limit (4300 digits) for integer string conversion: value has " ++ _ ++
        _).toList ≠ []
      rw [String.toList_append, String.toList_append]
      exact List.append_ne_nil_of_left_ne_nil
        (List.append_ne_nil_of_left_ne_nil (by decide) _) _

namespace Json

theorem SyntaxError.isWhole_message (e : SyntaxError) : IsWhole e.message.toList := by
  have hproblem : IsWhole e.problem.message.toList := by
    cases e.problem <;> decide +kernel
  simp only [SyntaxError.message, String.toList_append, isWhole_append]
  exact ⟨⟨⟨⟨⟨⟨⟨hproblem, by decide⟩, isWhole_toString _⟩, by decide⟩, isWhole_toString _⟩,
    by decide⟩, isWhole_toString _⟩, by decide⟩

theorem ReadError.message_ne_nil (e : ReadError) : e.message.toList ≠ [] := by
  cases e with
  | syntaxError e => simp [ReadError.message, SyntaxError.message]
  | number e => exact e.message_ne_nil
  | depth nesting => cases nesting <;> simp [ReadError.message]
  | encoding e => simp [ReadError.message, DecodeError.message]

/-- An error in decoding names the encoding it was found in. -/
theorem encoding_of_collectFrom {encoding : String} {position : Nat} {rest : List UInt8}
    {done : Text} {tokens : List Token} {e : DecodeError}
    (h : Token.collectFrom encoding position rest done tokens = .error e) :
    e.encoding = encoding := by
  induction tokens generalizing position rest done with
  | nil => cases h
  | cons token tokens ih =>
      cases token with
      | char c size => exact ih h
      | flaw f size =>
          cases h
          rfl

/-- The names under which bytes are decoded. -/
def encodingNames : List String := ["utf-8", "utf-16-le", "utf-16-be", "utf-32-le", "utf-32-be"]

theorem fst_read_mem (encoding : Encoding) (counts : Bool) (bytes : List UInt8) :
    (encoding.read counts bytes).1 ∈ encodingNames := by
  unfold Encoding.read
  repeat' split
  all_goals simp [encodingNames]

/-- Reading a text does not fail for its encoding. -/
theorem readDocument_ne_encoding (t : Text) (depth : Nat) (e : DecodeError) :
    readDocument t depth ≠ .error (.encoding e) := by
  intro h
  unfold readDocument at h
  simp only at h
  split at h
  · rename_i stop _
    cases stop <;> cases h
  · split at h <;> cases h

/-- **The message of a read error is whole**, so that it can be sent. -/
theorem isWhole_of_readBytes {bytes : List UInt8} {depth : Nat} {e : ReadError}
    (h : readBytes bytes depth = .error e) : IsWhole e.message.toList := by
  cases e with
  | syntaxError e => exact e.isWhole_message
  | number e => exact e.isWhole_message
  | depth nesting => cases nesting <;> decide
  | encoding e =>
      unfold readBytes at h
      split at h
      case h_1 e' hdecode =>
        cases h
        have hnames : ∀ name ∈ encodingNames, IsWhole name.toList := by decide
        refine DecodeError.isWhole_message (hnames _ ?_)
        rw [encoding_of_collectFrom hdecode]
        exact fst_read_mem ..
      case h_2 => exact absurd h (readDocument_ne_encoding _ _ _)

/-! ## Values that can be sent -/

theorem find?_utf8_of_isWhole {t : Text} (h : IsWhole t) : Unencodable.find? .utf8 t = none := by
  have hall : t.takeWhile WrittenAs.utf8.has = t := by
    refine List.takeWhile_eq_self_iff.mpr fun c hc => ?_
    rw [WrittenAs.has, h c hc]
    rfl
  simp only [Unencodable.find?, hall, List.drop_length, List.takeWhile_nil]

theorem hasBytes_of_isWhole {v : Json} (h : IsWhole v.write) : v.HasBytes :=
  find?_utf8_of_isWhole h

theorem isWhole_writeChar {c : Char} (h : isHalf c = false) : IsWhole (writeChar c) := by
  rw [writeChar]
  split
  case h_1 letter hletter =>
    have hletters : IsWhole (writtenEscapes.map Prod.snd) := by decide
    obtain ⟨l, r, hl, -⟩ := List.lookup_eq_some_iff.mp hletter
    have hmem : letter ∈ writtenEscapes.map Prod.snd := by
      rw [hl]
      simp
    exact isWhole_cons.mpr ⟨by decide, isWhole_cons.mpr ⟨hletters _ hmem, isWhole_nil⟩⟩
  case h_2 =>
    split
    case isTrue hlt =>
      refine isWhole_append.mpr ⟨by decide, isWhole_cons.mpr ⟨isHalf_digitChar (by omega),
        isWhole_cons.mpr ⟨isHalf_digitChar (by omega), isWhole_nil⟩⟩⟩
    case isFalse => exact isWhole_cons.mpr ⟨h, isWhole_nil⟩

theorem isWhole_writeText {t : Text} (h : IsWhole t) : IsWhole (writeText t) := by
  have hquote : isHalf '"' = false := by decide
  exact isWhole_cons.mpr ⟨hquote, isWhole_append.mpr
    ⟨isWhole_flatMap fun c hc => isWhole_writeChar (h c hc), isWhole_cons.mpr ⟨hquote, isWhole_nil⟩⟩⟩

theorem writeItems_eq_map (items : List Json) : writeItems items = items.map write := by
  induction items with
  | nil => rfl
  | cons v rest ih => rw [writeItems, ih, List.map_cons]

theorem writeMembers_eq_map (members : List (Text × Json)) :
    writeMembers members = members.map fun m => writeText m.1 ++ ':' :: write m.2 := by
  induction members with
  | nil => rfl
  | cons m rest ih => rw [writeMembers, ih, List.map_cons]

theorem isWhole_write_text {t : Text} (h : IsWhole t) : IsWhole (Json.text t).write := by
  rw [write]
  exact isWhole_writeText h

theorem isWhole_write_list {items : List Json} (h : ∀ v ∈ items, IsWhole v.write) :
    IsWhole (list items).write := by
  rw [write, writeItems_eq_map]
  refine isWhole_cons.mpr ⟨by decide, isWhole_append.mpr ⟨?_, by decide⟩⟩
  refine isWhole_join (by decide) fun p hp => ?_
  obtain ⟨v, hv, rfl⟩ := List.mem_map.mp hp
  exact h v hv

theorem isWhole_write_ofMembers {members : List (String × Json)}
    (h : ∀ m ∈ members, IsWhole m.1.toList ∧ IsWhole m.2.write) :
    IsWhole (ofMembers members).write := by
  rw [ofMembers, write, writeMembers_eq_map]
  refine isWhole_cons.mpr ⟨by decide, isWhole_append.mpr ⟨?_, by decide⟩⟩
  refine isWhole_join (by decide) fun p hp => ?_
  rw [List.map_map] at hp
  obtain ⟨m, hm, rfl⟩ := List.mem_map.mp hp
  obtain ⟨hname, hvalue⟩ := h m hm
  exact isWhole_append.mpr ⟨isWhole_writeText hname, isWhole_cons.mpr ⟨by decide, hvalue⟩⟩

end Json

end ContractVerifier
