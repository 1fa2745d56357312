import Courier.Json.Number
import Courier.Notification.Decoding
import Courier.Proofs.Json.Document

/-!
# Numbers there and back

An integer of 64 bits, signed or not, is written as a literal that means this integer.  A double is
written as a literal too; that reading it gives the same double is a property of the double, since a
reader that rounds more than once can miss its last bit.

* `Json.number?_ofInt` : **an integer is read as it is written.**
* `Json.number?_eq_integer_iff` : **the literals that mean an integer are those that are written as
  one of 64 bits**, but for a zero with a minus sign.
* `Json.eq_ofInt_of_int?` : such a literal has no other digits than the integer.
* `Json.ofChars_chars`, `Json.render_eq_encode` : a literal, its characters and its octets.
* `Double.ReadsBack` : the text of a double is read as that double.
* `Double.ReadsBack.literal` : such a double is written as a literal that the grammar allows and
  that means the double.
-/

namespace Courier

namespace Decimal

theorem ofNat_of_lt {n : Nat} (h : n < 10) : ofNat n = [Fin.ofNat 10 n] := by
  rw [ofNat, if_pos h]

theorem ofNat_of_le {n : Nat} (h : 10 ≤ n) :
    ofNat n = ofNat (n / 10) ++ [Fin.ofNat 10 (n % 10)] := by
  rw [ofNat, if_neg (Nat.not_lt.2 h)]

theorem ofNat_ne_nil (n : Nat) : ofNat n ≠ [] := by
  by_cases h : n < 10
  · rw [ofNat_of_lt h]
    exact List.cons_ne_nil _ _
  · rw [ofNat_of_le (Nat.not_lt.1 h)]
    exact List.append_ne_nil_of_right_ne_nil _ (List.cons_ne_nil _ _)

/-- A positive number is written without leading zeros. -/
theorem ofNat_eq_cons {n : Nat} (h : 0 < n) : ∃ d ds, ofNat n = d :: ds ∧ d ≠ 0 := by
  induction n using Nat.strongRecOn with
  | ind n ih =>
    by_cases hlt : n < 10
    · refine ⟨_, [], ofNat_of_lt hlt, fun hzero => ?_⟩
      have := congrArg Fin.val hzero
      simp only [Fin.ofNat, Nat.mod_eq_of_lt hlt] at this
      exact absurd this (Nat.ne_of_gt h)
    · -- the first digit is the first one of a tenth of the number
      have hle := Nat.not_lt.1 hlt
      obtain ⟨d, ds, hds, hd⟩ := ih (n / 10) (by omega) (by omega)
      exact ⟨d, ds ++ [Fin.ofNat 10 (n % 10)], by rw [ofNat_of_le hle, hds, List.cons_append], hd⟩

/-- A leading zero stands alone. -/
theorem ofNat_leading {n : Nat} {ds : List Digit} (h : ofNat n = 0 :: ds) : ds = [] := by
  by_cases hn : n = 0
  · subst hn
    rw [ofNat_of_lt (by decide)] at h
    exact (List.cons.inj h).2.symm
  · obtain ⟨d, ds', hds, hd⟩ := ofNat_eq_cons (Nat.pos_of_ne_zero hn)
    rw [hds] at h
    exact absurd (List.cons.inj h).1 hd

/-- A positive number with one more digit is written with that digit behind its own. -/
theorem ofNat_snoc {n : Nat} (h : 0 < n) (d : Digit) : ofNat (n * 10 + d.val) = ofNat n ++ [d] := by
  have hd := d.isLt
  have hdiv : (n * 10 + d.val) / 10 = n := by omega
  have hmod : (n * 10 + d.val) % 10 = d.val := by omega
  rw [ofNat_of_le (by omega), hdiv, hmod]
  simp [Fin.ofNat, Nat.mod_eq_of_lt hd]

theorem ofNat_toNat_append {n : Nat} (h : 0 < n) (ds : List Digit) :
    ofNat (ds.foldl (fun n d => n * 10 + d.val) n) = ofNat n ++ ds := by
  induction ds generalizing n with
  | nil => exact (List.append_nil _).symm
  | cons d ds ih =>
    rw [List.foldl_cons, ih (by omega), ofNat_snoc h, List.append_assoc, List.singleton_append]

/-- Digits without leading zeros are those of the number that they stand for. -/
theorem ofNat_toNat {ds : List Digit} (hne : ds ≠ [])
    (hleading : ∀ rest, ds = 0 :: rest → rest = []) : ofNat (toNat ds) = ds := by
  obtain ⟨d, rest, rfl⟩ := List.exists_cons_of_ne_nil hne
  have hd := d.isLt
  have hfirst : ofNat d.val = [d] := by
    rw [ofNat_of_lt hd]
    simp [Fin.ofNat, Nat.mod_eq_of_lt hd]
  have hfold : toNat (d :: rest) = rest.foldl (fun n d => n * 10 + d.val) d.val := by simp [toNat]
  rw [hfold]
  by_cases hzero : d = 0
  · subst hzero
    rw [hleading rest rfl]
    exact hfirst
  · have hpos : 0 < d.val := Nat.pos_of_ne_zero fun h => hzero (Fin.ext h)
    rw [ofNat_toNat_append hpos, hfirst, List.singleton_append]

end Decimal

namespace Json

/-! ### Integers -/

theorem wellFormed_ofInt (n : Int) : (Literal.ofInt n).WellFormed where
  whole := Decimal.ofNat_ne_nil _
  leading _ h := Decimal.ofNat_leading h
  exponent _ _ h := by cases h

theorem le_foldl_digits (s : Nat) (ds : List Digit) :
    s ≤ ds.foldl (fun n d => n * 10 + d.val) s := by
  induction ds generalizing s with
  | nil => exact Nat.le_refl s
  | cons d ds ih =>
    have := ih (s * 10 + d.val)
    rw [List.foldl_cons]
    omega

/-- Digits that fit are gathered as the number that they stand for. -/
theorem gatherWhole_eq {s : Nat} {ds : List Digit}
    (h : ds.foldl (fun n d => n * 10 + d.val) s ≤ significandLimit) :
    gatherWhole s ds = (⟨ds.foldl (fun n d => n * 10 + d.val) s, 0⟩, false) := by
  induction ds generalizing s with
  | nil => rfl
  | cons d ds ih =>
    rw [List.foldl_cons] at h ⊢
    have hfits := Nat.le_trans (le_foldl_digits _ _) h
    rw [gatherWhole, if_pos hfits, ih h]

theorem gatherWhole_ofNat {n : Nat} (h : n ≤ significandLimit) :
    gatherWhole 0 (Decimal.ofNat n) = (⟨n, 0⟩, false) := by
  have htoNat : (Decimal.ofNat n).foldl (fun n d => n * 10 + d.val) 0 = n := Decimal.toNat_ofNat n
  rw [gatherWhole_eq (by rw [htoNat]; exact h), htoNat]

/-- **An integer is read as it is written.** -/
theorem number?_ofInt (n : WideInt) : (Literal.ofInt n.val).number? = some (.integer n) := by
  obtain ⟨n, hle, hlt⟩ := n
  have hgather : gatherWhole 0 (Literal.ofInt n).whole = (⟨n.natAbs, 0⟩, false) :=
    gatherWhole_ofNat (by simp only [significandLimit]; omega)
  have hinteger : (Literal.ofInt n).isInteger = true := rfl
  have hnegative : (Literal.ofInt n).negative = decide (n < 0) := rfl
  unfold Literal.number?
  simp only [hgather, hinteger, hnegative]
  -- the reader has different bounds for the two signs
  by_cases hneg : n < 0
  · have hzero : (n.natAbs == 0) = false := by simp; omega
    have hfits : n.natAbs ≤ 9223372036854775808 := by omega
    have hval : -(n.natAbs : Int) = n := by omega
    simp only [hneg, decide_true, hzero, Bool.and_false, Bool.not_false, Bool.and_self, if_true,
      dif_pos hfits, hval]
  · have hfits : n.natAbs < 18446744073709551616 := by omega
    have hval : (n.natAbs : Int) = n := by omega
    simp only [hneg, decide_false, Bool.false_and, Bool.not_false, Bool.and_self, if_true,
      if_neg Bool.false_ne_true, dif_pos hfits, hval]

/-- Digits that do not fit are noticed. -/
theorem gatherWhole_overflow {s : Nat} {ds : List Digit} (hs : s ≤ significandLimit)
    (h : significandLimit < ds.foldl (fun n d => n * 10 + d.val) s) : (gatherWhole s ds).2 = true := by
  induction ds generalizing s with
  | nil => exact absurd h (Nat.not_lt.2 hs)
  | cons d ds ih =>
    rw [gatherWhole]
    by_cases hfits : s * 10 + d.val ≤ significandLimit
    · rw [if_pos hfits]
      exact ih hfits h
    · rw [if_neg hfits]

/-- Whether a literal is an integer zero with a minus sign. -/
def Literal.isMinusZero (l : Literal) : Bool :=
  l.isInteger && l.negative && Decimal.toNat l.whole == 0

/-- The zero with a minus sign and a single digit. -/
def Literal.minusZero : Literal := .ofChars ['-', '0']

theorem Literal.wellFormed_minusZero : minusZero.WellFormed := by
  have hwhole : minusZero.whole = [0] := rfl
  have hexponent : minusZero.exponent = none := rfl
  refine ⟨by simp [hwhole], ?_, by simp [hexponent]⟩
  intro ds hds
  rw [hwhole] at hds
  exact (List.cons.inj hds).2.symm

/-- **A literal means an integer exactly if it is written as one of 64 bits** and is no zero with a
minus sign. -/
theorem number?_eq_integer_iff {l : Literal} {n : WideInt} :
    l.number? = some (.integer n) ↔ l.int? = some n.val ∧ l.isMinusZero = false := by
  obtain ⟨n, hle, hlt⟩ := n
  have hdouble : ∀ {o : Option Magnitude} {negative : Bool} {n : WideInt},
      (o.map fun x => Number.double ⟨negative, x⟩) ≠ some (.integer n) := by
    intro o negative n h
    cases o <;> cases h
  unfold Literal.number? Literal.int? Literal.isMinusZero
  cases hinteger : l.isInteger with
  | false => simp [hdouble]
  | true =>
    by_cases hfits : Decimal.toNat l.whole ≤ significandLimit
    · have hgather : gatherWhole 0 l.whole = (⟨Decimal.toNat l.whole, 0⟩, false) :=
        gatherWhole_eq hfits
      simp only [hgather, significandLimit] at hfits ⊢
      cases l.negative with
      | false =>
        have hbound : Decimal.toNat l.whole < 18446744073709551616 := by omega
        simp [dif_pos hbound]
      | true =>
        by_cases hzero : Decimal.toNat l.whole = 0
        · simp [hzero, hdouble]
        · by_cases hbound : Decimal.toNat l.whole ≤ 9223372036854775808
          · simp [hzero, dif_pos hbound]
          · refine iff_of_false (by simp [hzero, dif_neg hbound, hdouble]) ?_
            rintro ⟨h, -⟩
            simp only [if_pos, Option.some.injEq] at h
            omega
    · have hoverflow : (gatherWhole 0 l.whole).2 = true :=
        gatherWhole_overflow (Nat.zero_le _) (Nat.lt_of_not_le hfits)
      simp only [significandLimit] at hfits
      refine iff_of_false (by simp [hoverflow, hdouble]) ?_
      rintro ⟨h, -⟩
      simp only [if_pos, Option.some.injEq] at h
      split at h <;> omega

/-- An integer literal of the grammar has no other digits than the integer. -/
theorem eq_ofInt_of_int? {l : Literal} {z : Int} (hl : l.WellFormed) (h : l.int? = some z)
    (hzero : l.isMinusZero = false) : l = .ofInt z := by
  obtain ⟨negative, whole, fraction, exponent⟩ := l
  have hdigits : Decimal.ofNat (Decimal.toNat whole) = whole :=
    Decimal.ofNat_toNat hl.whole hl.leading
  cases hinteger : Literal.isInteger ⟨negative, whole, fraction, exponent⟩ with
  | false => simp [Literal.int?, hinteger] at h
  | true =>
    simp only [Literal.int?, hinteger, if_pos, Option.some.injEq] at h
    simp only [Literal.isMinusZero, hinteger, Bool.true_and] at hzero
    obtain ⟨rfl, rfl⟩ : fraction = [] ∧ exponent = none := by simpa [Literal.isInteger] using hinteger
    cases negative with
    | false =>
      rw [if_neg Bool.false_ne_true] at h
      subst h
      have hsign : ¬ (Decimal.toNat whole : Int) < 0 := by omega
      simp [Literal.ofInt, hsign, hdigits]
    | true =>
      rw [if_pos rfl] at h
      subst h
      have hpos : 0 < Decimal.toNat whole := Nat.pos_of_ne_zero (by simpa using hzero)
      simp [Literal.ofInt, hpos, hdigits]

/-! ### The text of a literal -/

/-- The characters of a point and the digits after it. -/
def fractionChars (ds : List Digit) : List Char :=
  if ds.isEmpty then [] else '.' :: ds.map Decimal.char

/-- The characters of an exponent. -/
def exponentChars : Option (Bool × List Digit) → List Char
  | none => []
  | some (minus, ds) => 'e' :: (if minus then '-' else '+') :: ds.map Decimal.char

/-- The characters of a literal. -/
def Literal.chars (l : Literal) : List Char :=
  (if l.negative then ['-'] else []) ++
    (l.whole.map Decimal.char ++ (fractionChars l.fraction ++ exponentChars l.exponent))

/-- The characters of the literal of an integer are those of the integer. -/
theorem chars_ofInt (z : Int) : (Literal.ofInt z).chars = Decimal.intChars z := by
  cases z <;> simp [Literal.chars, Literal.ofInt, fractionChars, exponentChars, Decimal.intChars,
    Decimal.chars]

theorem encodeChar_digit : ∀ d : Digit,
    Utf8.encodeChar (Decimal.char d) = [UInt8.ofNat (48 + d.val)] := by decide

theorem encode_digits (ds : List Digit) :
    Utf8.encode (ds.map Decimal.char) = digitBytes ds := by
  induction ds with
  | nil => rfl
  | cons d ds ih =>
    rw [List.map_cons, Utf8.encode_cons, encodeChar_digit, ih]
    rfl

/-- The octets of a literal are those of its characters. -/
theorem render_eq_encode (l : Literal) : l.render = Utf8.encode l.chars := by
  obtain ⟨negative, whole, fraction, exponent⟩ := l
  have hsign : Utf8.encode (if negative then ['-'] else []) = if negative then [0x2D] else [] := by
    cases negative <;> rfl
  have hfraction : Utf8.encode (fractionChars fraction) =
      if fraction.isEmpty then [] else 0x2E :: digitBytes fraction := by
    cases fraction with
    | nil => rfl
    | cons d ds =>
      rw [fractionChars, List.isEmpty_cons, if_neg Bool.false_ne_true, if_neg Bool.false_ne_true,
        Utf8.encode_cons, encode_digits]
      rfl
  have hexponent : ∀ (minus : Bool) ds, Utf8.encode (exponentChars (some (minus, ds))) =
      0x65 :: (if minus then 0x2D else 0x2B) :: digitBytes ds := by
    intro minus ds
    rw [exponentChars, Utf8.encode_cons, Utf8.encode_cons, encode_digits]
    cases minus <;> rfl
  simp only [Literal.render, Literal.chars, Utf8.encode_append, hsign, hfraction, encode_digits,
    List.append_assoc]
  cases exponent with
  | none => rfl
  | some e => rw [hexponent]

/-- Digits are taken up to the first character that is none. -/
theorem takeDigits_append {rest : List Char} (h : takeDigits rest = ([], rest)) (ds : List Digit) :
    takeDigits (ds.map Decimal.char ++ rest) = (ds, rest) := by
  induction ds with
  | nil => exact h
  | cons d ds ih => simp only [List.map_cons, List.cons_append, takeDigits, Decimal.digit?_char, ih]

theorem takeDigits_exponent (e : Option (Bool × List Digit)) :
    takeDigits (exponentChars e) = ([], exponentChars e) := by
  cases e <;> rfl

theorem takeDigits_fraction (fraction : List Digit) (e : Option (Bool × List Digit)) :
    takeDigits (fractionChars fraction ++ exponentChars e) =
      ([], fractionChars fraction ++ exponentChars e) := by
  cases fraction with
  | nil => exact takeDigits_exponent e
  | cons d ds => rfl

/-- Reads the characters behind the sign of a literal. -/
def Literal.ofUnsigned (negative : Bool) (cs : List Char) : Literal :=
  let (whole, cs) := takeDigits cs
  let (fraction, cs) := match cs with
    | '.' :: rest => takeDigits rest
    | cs => ([], cs)
  let exponent := match cs with
    | 'e' :: '-' :: rest => some (true, (takeDigits rest).1)
    | 'e' :: '+' :: rest => some (false, (takeDigits rest).1)
    | _ => none
  ⟨negative, whole, fraction, exponent⟩

theorem ofChars_minus (cs : List Char) :
    Literal.ofChars ('-' :: cs) = Literal.ofUnsigned true cs := rfl

theorem ofChars_of_ne {cs : List Char} (h : ∀ rest, cs ≠ '-' :: rest) :
    Literal.ofChars cs = Literal.ofUnsigned false cs := by
  unfold Literal.ofChars
  split
  · next negative cs' heq =>
    split at heq
    · next rest => exact absurd rfl (h rest)
    · cases heq
      rfl

theorem ofUnsigned_chars (negative : Bool) (whole fraction : List Digit)
    (exponent : Option (Bool × List Digit)) :
    Literal.ofUnsigned negative
        (whole.map Decimal.char ++ (fractionChars fraction ++ exponentChars exponent)) =
      ⟨negative, whole, fraction, exponent⟩ := by
  have hfraction := takeDigits_append (takeDigits_exponent exponent) fraction
  have hexponent : ∀ ds, takeDigits (ds.map Decimal.char) = (ds, []) := by
    intro ds
    have hend : takeDigits [] = ([], []) := rfl
    simpa using takeDigits_append hend ds
  unfold Literal.ofUnsigned
  rw [takeDigits_append (takeDigits_fraction fraction exponent) whole]
  cases fraction with
  | nil =>
    cases exponent with
    | none => rfl
    | some e =>
      obtain ⟨minus, ds⟩ := e
      cases minus <;> simp [fractionChars, exponentChars, hexponent]
  | cons d ds =>
    simp only [fractionChars, List.isEmpty_cons, if_neg Bool.false_ne_true, List.cons_append,
      hfraction]
    cases exponent with
    | none => rfl
    | some e =>
      obtain ⟨minus, ds⟩ := e
      cases minus <;> simp [exponentChars, hexponent]

/-- The characters of a literal are read as that literal. -/
theorem ofChars_chars (l : Literal) : Literal.ofChars l.chars = l := by
  obtain ⟨negative, whole, fraction, exponent⟩ := l
  cases negative with
  | true => exact (ofChars_minus _).trans (ofUnsigned_chars true whole fraction exponent)
  | false =>
    have hminus : ∀ d, Decimal.char d ≠ '-' := by decide
    refine (ofChars_of_ne ?_).trans (ofUnsigned_chars false whole fraction exponent)
    -- what comes first is a digit, the point or the letter of the exponent
    intro rest heq
    cases whole with
    | cons d ds => exact hminus d (List.cons.inj heq).1
    | nil =>
      cases fraction with
      | cons d ds => cases heq
      | nil => cases exponent <;> cases heq

end Json

/-- A priority is read as it is written. -/
theorem priorityOfJson?_int (p : Int32) : priorityOfJson? (.int p.toInt) = some p := by
  have hle := p.le_toInt
  have hlt := p.toInt_lt
  have hnumber := Json.number?_ofInt ⟨p.toInt, by omega, by omega⟩
  simp only [priorityOfJson?, Json.Value.int, hnumber]
  rw [if_pos ⟨by omega, by omega⟩, Int32.ofInt_toInt]

/-! ### Doubles -/

namespace Double

open Json

/-- The literal of a positive decimal. -/
def decimalLiteral (format : DoubleFormat) (ds : List Digit) (exponent : Int) : Literal :=
  if format.leastPlain ≤ exponent ∧ exponent ≤ format.greatestPlain then
    if exponent < 0 then
      ⟨false, [Decimal.zero], List.replicate (-exponent - 1).toNat Decimal.zero ++ ds, none⟩
    else
      let padded := ds ++ List.replicate (exponent.toNat + 1 + 1 - ds.length) Decimal.zero
      ⟨false, padded.take (exponent.toNat + 1), padded.drop (exponent.toNat + 1), none⟩
  else
    ⟨false, ds.take 1, ds.drop 1, some (decide (exponent < 0), Decimal.ofNat exponent.natAbs)⟩

/-- The literal that a double is written as. -/
def literal (x : Double) : Literal :=
  let c := x.magnitude.shortest.1
  let k := x.magnitude.shortest.2
  { decimalLiteral .message (Decimal.ofNat c) (k + ((Decimal.ofNat c).length : Int) - 1) with
    negative := x.negative }

variable {format : DoubleFormat} {ds : List Digit} {exponent : Int}

theorem replicate_zero (n : Nat) :
    List.replicate n '0' = (List.replicate n (0 : Digit)).map Decimal.char := by
  rw [List.map_replicate]
  rfl

theorem fractionChars_of_ne_nil (hds : ds ≠ []) :
    fractionChars ds = '.' :: ds.map Decimal.char := by
  obtain ⟨d, ds, rfl⟩ := List.exists_cons_of_ne_nil hds
  rfl

/-- A decimal below one. -/
theorem decimalChars_fraction (hds : ds ≠ []) (hplain : format.leastPlain ≤ exponent ∧
    exponent ≤ format.greatestPlain) (hneg : exponent < 0) :
    decimalChars format (ds.map Decimal.char) exponent =
      (decimalLiteral format ds exponent).chars := by
  have hne : List.replicate (-exponent - 1).toNat 0 ++ ds ≠ [] :=
    List.append_ne_nil_of_right_ne_nil _ hds
  unfold decimalChars decimalLiteral
  rw [if_pos hplain, if_pos hplain, if_pos hneg, if_pos hneg]
  simp only [Literal.chars, fractionChars_of_ne_nil hne, exponentChars, replicate_zero,
    List.map_append, List.append_nil]
  rfl

/-- A decimal with digits in front of the point. -/
theorem decimalChars_whole (hplain : format.leastPlain ≤ exponent ∧
    exponent ≤ format.greatestPlain) (hneg : ¬ exponent < 0) :
    decimalChars format (ds.map Decimal.char) exponent =
      (decimalLiteral format ds exponent).chars := by
  have hne : (ds ++ List.replicate (exponent.toNat + 1 + 1 - ds.length) 0).drop
      (exponent.toNat + 1) ≠ [] := by
    rw [← List.length_pos_iff, List.length_drop, List.length_append, List.length_replicate]
    omega
  unfold decimalChars decimalLiteral
  rw [if_pos hplain, if_pos hplain, if_neg hneg, if_neg hneg]
  simp only [Literal.chars, fractionChars_of_ne_nil hne, exponentChars, replicate_zero,
    List.length_map, ← List.map_append, ← List.map_take, ← List.map_drop, List.append_nil]
  rfl

/-- A decimal with an exponent. -/
theorem decimalChars_power (hds : ds ≠ []) (hplain : ¬ (format.leastPlain ≤ exponent ∧
    exponent ≤ format.greatestPlain)) :
    decimalChars format (ds.map Decimal.char) exponent =
      (decimalLiteral format ds exponent).chars := by
  obtain ⟨d, ds, rfl⟩ := List.exists_cons_of_ne_nil hds
  have hsign : (if exponent < 0 then '-' else '+') =
      if decide (exponent < 0) = true then '-' else '+' := by
    by_cases hneg : exponent < 0 <;> simp [hneg]
  unfold decimalChars decimalLiteral
  rw [if_neg hplain, if_neg hplain, hsign]
  cases ds with
  | nil => rfl
  | cons d' ds =>
    simp only [Literal.chars, fractionChars, exponentChars, Decimal.chars, List.map_cons,
      List.take_succ_cons, List.take_zero, List.drop_succ_cons, List.drop_zero, List.isEmpty_cons]
    simp

theorem decimalChars_digits (format : DoubleFormat) (exponent : Int) (hds : ds ≠ []) :
    decimalChars format (ds.map Decimal.char) exponent =
      (decimalLiteral format ds exponent).chars := by
  by_cases hplain : format.leastPlain ≤ exponent ∧ exponent ≤ format.greatestPlain
  · by_cases hneg : exponent < 0
    · exact decimalChars_fraction hds hplain hneg
    · exact decimalChars_whole hplain hneg
  · exact decimalChars_power hds hplain

/-- A double is written as its literal. -/
theorem chars_eq (x : Double) : x.chars .message = x.literal.chars := by
  have hdigits := decimalChars_digits .message
    (x.magnitude.shortest.2 + ((Decimal.ofNat x.magnitude.shortest.1).length : Int) - 1)
    (Decimal.ofNat_ne_nil x.magnitude.shortest.1)
  unfold Double.chars literal
  simp only [Decimal.chars, List.length_map, hdigits]
  have hpositive : ∀ exponent, (decimalLiteral .message (Decimal.ofNat x.magnitude.shortest.1)
      exponent).negative = false := by
    intro exponent
    unfold decimalLiteral
    split
    · split <;> rfl
    · rfl
  simp only [Literal.chars, hpositive]
  cases x.negative <;> rfl

theorem ofNumber_double (x : Double) : Literal.ofNumber (.double x) = x.literal := by
  rw [Literal.ofNumber, chars_eq, ofChars_chars]

theorem literal_whole (x : Double) : x.literal.whole ≠ [] := by
  have hne := Decimal.ofNat_ne_nil x.magnitude.shortest.1
  unfold literal decimalLiteral
  simp only
  split
  · split
    · exact List.cons_ne_nil _ _
    · rw [← List.length_pos_iff, List.length_take, List.length_append]
      have := List.length_pos_iff.2 hne
      omega
  · obtain ⟨d, ds, hds⟩ := List.exists_cons_of_ne_nil hne
    rw [hds]
    exact List.cons_ne_nil _ _

theorem literal_exponent (x : Double) (minus : Bool) (ds : List Digit)
    (h : x.literal.exponent = some (minus, ds)) : ds ≠ [] := by
  unfold literal decimalLiteral at h
  simp only at h
  split at h
  · split at h <;> cases h
  · cases h
    exact Decimal.ofNat_ne_nil _

/-- The text of a double is read as that double. -/
def ReadsBack (x : Double) : Prop :=
  (read? (Utf8.ofString x.render)).bind Scalar.ofJson? = some (.number (.double x))

instance (x : Double) : Decidable x.ReadsBack := inferInstanceAs (Decidable (_ = _))

/-- Nothing is read where a leading zero does not stand alone. -/
theorem read?_leading {l : Literal} {d : Digit} {ds : List Digit} (h : l.whole = 0 :: d :: ds) :
    read? l.render = none := by
  have hstuck : ∀ negative,
      step (.number ⟨negative, [0], [], none, .zero⟩ []) (UInt8.ofNat (48 + d.val)) = none := by
    intro negative
    have hpush : (⟨negative, [0], [], none, .zero⟩ : Partial).push? (UInt8.ofNat (48 + d.val)) =
        none := by
      simp only [Partial.push?, digit?_digitByte]
    rw [step, hpush]
    simp only [Partial.finish?, Option.bind_some, close, isSpace_digitByte,
      if_neg Bool.false_ne_true]
  have hrender : ∃ rest, l.render = (if l.negative then [0x2D] else []) ++
      0x30 :: UInt8.ofNat (48 + d.val) :: rest := by
    rw [Literal.render, h, digitBytes_cons, digitBytes_cons]
    simp only [List.append_assoc, List.cons_append]
    exact ⟨_, rfl⟩
  obtain ⟨rest, hrender⟩ := hrender
  have hzero : run (.value []) ((if l.negative then [0x2D] else []) ++ [0x30]) =
      some (.number ⟨l.negative, [0], [], none, .zero⟩ []) := by
    cases l.negative <;> rfl
  have hsplit : l.render = ((if l.negative then [0x2D] else []) ++ [0x30]) ++
      UInt8.ofNat (48 + d.val) :: rest := by
    rw [hrender, List.append_assoc, List.singleton_append]
  rw [read?, hsplit, run_append, hzero, Option.bind_some, run, hstuck]
  rfl

/-- **A double that is read back is written as a literal that the grammar allows and that means the
double.** -/
theorem ReadsBack.literal {x : Double} (h : x.ReadsBack) :
    x.literal.WellFormed ∧ x.literal.number? = some (.double x) := by
  have htext : Utf8.ofString x.render = x.literal.render := by
    rw [render_eq_encode, ← chars_eq, Utf8.ofString, Double.render, String.toList_ofList]
  rw [ReadsBack, htext] at h
  have hformed : x.literal.WellFormed := by
    refine ⟨literal_whole x, fun ds hds => ?_, literal_exponent x⟩
    -- a leading zero in front of other digits would not have been read
    cases ds with
    | nil => rfl
    | cons d ds =>
      rw [read?_leading hds] at h
      cases h
  have hread : read? x.literal.render = some (.number x.literal) :=
    read?_render (v := .number x.literal) hformed
  rw [hread, Option.bind_some, Scalar.ofJson?, Option.map_eq_some_iff] at h
  obtain ⟨n, hn, heq⟩ := h
  cases heq
  exact ⟨hformed, hn⟩

end Double

end Courier
