import Courier.Json.Reader
import Courier.Proofs.Text.Utf8

/-!
# Quoted text there and back

A string that is written between quotes is read as that string, whatever its characters are, and the
reader of documents finds the closing quote where it was put.

* `Json.unescapeFrom_quoteChar` : every quoted character is read as its octets.
* `Json.unquote?_quote` : **a quoted string is read as that string.**
* `Json.Enclosed` : octets that the reader takes for the inside of a string.
* `Json.enclosed_quote` : a quoted string is such.
-/

namespace Courier

namespace Json

/-! ### The three ways to write a character -/

/-- What the letter of a short escape stands for. -/
theorem escaped?_shortEscape {n : Nat} {letter : UInt8} (h : shortEscape? n = some letter) :
    escaped? letter = some (UInt8.ofNat n) ∧ letter ≠ 0x75 ∧ n < 0x80 := by
  unfold shortEscape? at h
  repeat' split at h
  all_goals first
    | (cases h; subst_vars; decide)
    | cases h

/-- The octet of a hexadecimal digit. -/
theorem encodeChar_lower : ∀ d : Nibble,
    Utf8.encodeChar (Hex.lower d) = [UInt8.ofNat (Hex.lower d).toNat] := by decide

/-- The octets of a control character that has no short escape. -/
theorem quoteChar_control {c : Char} (hshort : shortEscape? c.toNat = none) (h : c.toNat < 0x20) :
    ∃ high low, quoteChar c = [0x5C, 0x75, 0x30, 0x30, high, low] ∧
      unit? 0x30 0x30 high low = some c.toNat := by
  have hunit : ∀ n : Fin 32, unit? 0x30 0x30
      (UInt8.ofNat (Hex.lower (Hex.ofByte (UInt8.ofNat n)).1).toNat)
      (UInt8.ofNat (Hex.lower (Hex.ofByte (UInt8.ofNat n)).2).toNat) = some n.val := by decide
  refine ⟨_, _, ?_, hunit ⟨c.toNat, h⟩⟩
  simp only [quoteChar, hshort, if_pos h, Utf8.encode, List.flatMap_cons, List.flatMap_nil,
    encodeChar_lower, List.cons_append, List.nil_append]

/-- All other characters stand for themselves. -/
theorem quoteChar_plain {c : Char} (hshort : shortEscape? c.toNat = none) (h : ¬ c.toNat < 0x20) :
    quoteChar c = Utf8.encodeChar c ∧
      ∀ b ∈ quoteChar c, b ≠ 0x22 ∧ b ≠ 0x5C ∧ ¬ b.toNat < 0x20 := by
  have heq : quoteChar c = Utf8.encodeChar c := by simp only [quoteChar, hshort, if_neg h]
  refine ⟨heq, fun b hb => ?_⟩
  rw [heq] at hb
  -- a quote and a backslash have a short escape
  have hquote : c.toNat ≠ 0x22 := by
    intro hc
    rw [hc] at hshort
    cases hshort
  have hslash : c.toNat ≠ 0x5C := by
    intro hc
    rw [hc] at hshort
    cases hshort
  have hoctet := Utf8.le_of_mem_encodeChar hb
  refine ⟨?_, ?_, by omega⟩
  · rintro rfl
    change 0x80 ≤ 0x22 ∨ (0x22 = c.toNat ∧ _) at hoctet
    omega
  · rintro rfl
    change 0x80 ≤ 0x5C ∨ (0x5C = c.toNat ∧ _) at hoctet
    omega

/-! ### Undoing the escapes -/

/-- An octet that is no backslash stands for itself. -/
theorem unescapeFrom_plain {done : Bytes} {b : UInt8} {rest : Raw} (h : b ≠ 0x5C) :
    unescapeFrom done (b :: rest) = unescapeFrom (b :: done) rest := by
  rw [unescapeFrom]
  all_goals
    intros
    exact h ‹_›

theorem unescapeFrom_short {done : Bytes} {letter b : UInt8} {rest : Raw} (hne : letter ≠ 0x75)
    (h : escaped? letter = some b) :
    unescapeFrom done (0x5C :: letter :: rest) = unescapeFrom (b :: done) rest := by
  rw [unescapeFrom, h]
  intros
  exact hne ‹_›

theorem unescapeFrom_append {done raw rest : Bytes} (h : ∀ b ∈ raw, b ≠ 0x5C) :
    unescapeFrom done (raw ++ rest) = unescapeFrom (raw.reverse ++ done) rest := by
  induction raw generalizing done with
  | nil => rfl
  | cons b raw ih =>
    rw [List.cons_append, unescapeFrom_plain (h b List.mem_cons_self),
      ih fun b hb => h b (List.mem_cons_of_mem _ hb), List.reverse_cons, List.append_assoc,
      List.singleton_append]

/-- **A quoted character is read as its octets.** -/
theorem unescapeFrom_quoteChar (c : Char) (done : Bytes) (rest : Raw) :
    unescapeFrom done (quoteChar c ++ rest) =
      unescapeFrom ((Utf8.encodeChar c).reverse ++ done) rest := by
  cases hshort : shortEscape? c.toNat with
  | some letter =>
    obtain ⟨hletter, hne, hlt⟩ := escaped?_shortEscape hshort
    have hquote : quoteChar c = [0x5C, letter] := by simp only [quoteChar, hshort]
    rw [hquote, List.cons_append, List.singleton_append, unescapeFrom_short hne hletter,
      Utf8.encodeChar_of_lt hlt]
    rfl
  | none =>
    by_cases hcontrol : c.toNat < 0x20
    · obtain ⟨high, low, hquote, hunit⟩ := quoteChar_control hshort hcontrol
      have hlead : isLead c.toNat = false := by simp [isLead]; omega
      have htrail : isTrail c.toNat = false := by simp [isTrail]; omega
      rw [hquote]
      simp only [List.cons_append, List.nil_append, unescapeFrom, hunit, hlead, htrail,
        Bool.false_eq_true, if_false, Char.ofNat_toNat]
    · obtain ⟨hquote, hplain⟩ := quoteChar_plain hshort hcontrol
      rw [unescapeFrom_append fun b hb => (hplain b hb).2.1, hquote]

@[simp] theorem quoteChars_cons (c : Char) (cs : List Char) :
    quoteChars (c :: cs) = quoteChar c ++ quoteChars cs := rfl

theorem unescapeFrom_quoteChars (cs : List Char) (done : Bytes) :
    unescapeFrom done (quoteChars cs) = some (done.reverse ++ Utf8.encode cs) := by
  induction cs generalizing done with
  | nil => simp [quoteChars, unescapeFrom]
  | cons c cs ih =>
    rw [quoteChars_cons, unescapeFrom_quoteChar, ih, Utf8.encode_cons, List.reverse_append,
      List.reverse_reverse, List.append_assoc]

/-- **A quoted string is read as that string.** -/
@[simp] theorem unquote?_quote (s : String) : unquote? (quote s) = some s := by
  simp only [unquote?, unquoteChars?, unescape?, quote, unescapeFrom_quoteChars, List.reverse_nil,
    List.nil_append, Option.bind_some, Utf8.decode?_encode, Option.map_some, String.ofList_toList]

@[simp] theorem text?_text (s : String) : (Value.text s).text? = some s := unquote?_quote s

/-! ### Finding the closing quote -/

/-- The reader takes these octets for the inside of a string. -/
def Enclosed (raw : Raw) : Prop :=
  ∀ before role frames, run (.string before .none role frames) raw =
    some (.string (raw.reverse ++ before) .none role frames)

theorem Enclosed.nil : Enclosed [] := fun _ _ _ => rfl

theorem Enclosed.append {raw raw' : Raw} (h : Enclosed raw) (h' : Enclosed raw') :
    Enclosed (raw ++ raw') := by
  intro before role frames
  rw [run_append, h, Option.bind_some, h', List.reverse_append, List.append_assoc]

/-- Octets without a meaning of their own stand inside a string. -/
theorem enclosed_plain {raw : Raw} (h : ∀ b ∈ raw, b ≠ 0x22 ∧ b ≠ 0x5C ∧ ¬ b.toNat < 0x20) :
    Enclosed raw := by
  induction raw with
  | nil => exact .nil
  | cons b raw ih =>
    obtain ⟨hquote, hslash, hcontrol⟩ := h b List.mem_cons_self
    intro before role frames
    have hstep : step (.string before .none role frames) b =
        some (.string (b :: before) .none role frames) := by
      simp only [step, inString, if_neg hquote, if_neg hslash, if_neg hcontrol]
    rw [run, hstep]
    simp only
    rw [ih fun b hb => h b (List.mem_cons_of_mem _ hb), List.reverse_cons, List.append_assoc,
      List.singleton_append]

theorem enclosed_quoteChar (c : Char) : Enclosed (quoteChar c) := by
  cases hshort : shortEscape? c.toNat with
  | some letter =>
    obtain ⟨hletter, hne, -⟩ := escaped?_shortEscape hshort
    have hquote : quoteChar c = [0x5C, letter] := by simp only [quoteChar, hshort]
    intro before role frames
    simp [hquote, run, step, inString, hne, hletter]
  | none =>
    by_cases hcontrol : c.toNat < 0x20
    · obtain ⟨high, low, hquote, hunit⟩ := quoteChar_control hshort hcontrol
      -- the reader only looks for four hexadecimal digits
      simp only [unit?, Option.bind_eq_bind, Option.bind_eq_some_iff] at hunit
      obtain ⟨-, -, -, -, _, hhigh, _, hlow, -⟩ := hunit
      have hzero : (hexDigit? 0x30).isSome = true := by decide
      intro before role frames
      simp [hquote, run, step, inString, hhigh, hlow, hzero]
    · exact enclosed_plain (quoteChar_plain hshort hcontrol).2

/-- **A quoted string stands inside a string.** -/
theorem enclosed_quote (s : String) : Enclosed (quote s) := by
  unfold quote
  induction s.toList with
  | nil => exact .nil
  | cons c cs ih =>
    exact (enclosed_quoteChar c).append ih

end Json

end Courier
