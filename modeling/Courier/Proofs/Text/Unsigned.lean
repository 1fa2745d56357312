import Courier.Proofs.Json.Number
import Courier.Text.Unsigned

/-!
# Written integers

Reading an unsigned integer stops at the first fault, which may be a number that has become too
large; but a number only grows with more digits, so what can be read are the texts of decimal digits
whose number fits.

* `Decimal.digit?_eq_some_iff` : the digit of a character.
* `Unsigned.Writes` : the texts that stand for a number.
* `Unsigned.read_eq_ok_iff` : **these are the ones that are read, if the number fits.**
-/

namespace Courier

theorem Decimal.digit?_eq_some_iff {c : Char} {d : Digit} :
    Decimal.digit? c = some d ↔ c = Decimal.char d := by
  constructor
  · intro h
    unfold Decimal.digit? at h
    split at h
    · next hrange =>
      cases h
      rw [Decimal.char, Nat.add_sub_cancel' hrange.1, Char.ofNat_toNat]
    · cases h
  · rintro rfl
    exact Decimal.digit?_char d

namespace Unsigned

/-- A text that stands for a number: its decimal digits, with any zeros and possibly a plus sign in
front. -/
def Writes (s : String) (n : Nat) : Prop :=
  ∃ ds : List Digit, ds ≠ [] ∧ Decimal.toNat ds = n ∧
    (s.toList = ds.map Decimal.char ∨ s.toList = '+' :: ds.map Decimal.char)

variable {bound n m : Nat}

/-- What is read are digits. -/
theorem exists_digits {cs : List Char} (h : readDigits bound n cs = .ok m) :
    ∃ ds : List Digit, cs = ds.map Decimal.char := by
  induction cs generalizing n with
  | nil => exact ⟨[], rfl⟩
  | cons c cs ih =>
    rw [readDigits] at h
    cases hdigit : Decimal.digit? c with
    | none =>
      rw [hdigit] at h
      cases h
    | some d =>
      simp only [hdigit] at h
      split at h
      · obtain ⟨ds, rfl⟩ := ih h
        exact ⟨d :: ds, by rw [List.map_cons, Decimal.digit?_eq_some_iff.1 hdigit]⟩
      · cases h

/-- Digits are read after a number if the number that they make of it fits. -/
theorem readDigits_eq_ok_iff (hn : n < bound) (ds : List Digit) :
    readDigits bound n (ds.map Decimal.char) = .ok m ↔
      ds.foldl (fun n d => n * 10 + d.val) n = m ∧ m < bound := by
  induction ds generalizing n with
  | nil =>
    constructor
    · rintro ⟨⟩
      exact ⟨rfl, hn⟩
    · rintro ⟨rfl, -⟩
      rfl
  | cons d ds ih =>
    simp only [List.map_cons, readDigits, Decimal.digit?_char, List.foldl_cons]
    by_cases hfits : n * 10 + d.val < bound
    · rw [if_pos hfits, ih hfits]
    · rw [if_neg hfits]
      refine iff_of_false nofun ?_
      -- more digits do not make it fit again
      rintro ⟨rfl, hlt⟩
      exact hfits (Nat.lt_of_le_of_lt (Json.le_foldl_digits _ ds) hlt)

/-- Characters are read as digits if they are digits whose number fits. -/
theorem readDigits_zero_eq_ok_iff (hbound : 0 < bound) {cs : List Char} :
    readDigits bound 0 cs = .ok m ↔
      m < bound ∧ ∃ ds : List Digit, cs = ds.map Decimal.char ∧ Decimal.toNat ds = m := by
  constructor
  · intro h
    obtain ⟨ds, rfl⟩ := exists_digits h
    obtain ⟨hvalue, hfits⟩ := (readDigits_eq_ok_iff hbound ds).1 h
    exact ⟨hfits, ds, rfl, hvalue⟩
  · rintro ⟨hfits, ds, rfl, hvalue⟩
    exact (readDigits_eq_ok_iff hbound ds).2 ⟨hvalue, hfits⟩

theorem char_ne_plus : ∀ d : Digit, Decimal.char d ≠ '+' := by decide

/-- **What is read are the texts that stand for a number which fits.** -/
theorem read_eq_ok_iff (hbound : 0 < bound) {s : String} :
    read bound s = .ok m ↔ m < bound ∧ Writes s m := by
  have hplus (ds : List Digit) (rest : List Char) : '+' :: rest ≠ ds.map Decimal.char := by
    cases ds with
    | nil => exact List.cons_ne_nil _ _
    | cons d ds => exact fun heq => char_ne_plus d (List.cons.inj heq).1.symm
  unfold read Writes
  split
  · next hs =>
    refine iff_of_false nofun ?_
    rintro ⟨-, ds, hne, -, hds | hds⟩
    · exact hne (List.map_eq_nil_iff.1 (hds.symm.trans hs))
    · cases hs.symm.trans hds
  · next hs =>
    refine iff_of_false nofun ?_
    rintro ⟨-, ds, hne, -, hds | hds⟩
    · exact hplus ds [] (hs.symm.trans hds)
    · exact hne (List.map_eq_nil_iff.1 (List.cons.inj (hds.symm.trans hs)).2)
  · next rest hne hs =>
    rw [readDigits_zero_eq_ok_iff hbound, hs]
    refine and_congr_right fun _ => exists_congr fun ds => ?_
    constructor
    · rintro ⟨rfl, hvalue⟩
      exact ⟨fun hnil => hne (by rw [hnil, List.map_nil]), hvalue, .inr rfl⟩
    · rintro ⟨-, hvalue, hds | hds⟩
      · exact absurd hds (hplus ds rest)
      · exact ⟨(List.cons.inj hds).2, hvalue⟩
  · next hnil _ hsign =>
    rw [readDigits_zero_eq_ok_iff hbound]
    refine and_congr_right fun _ => exists_congr fun ds => ?_
    constructor
    · rintro ⟨hds, hvalue⟩
      exact ⟨fun hempty => hnil (by rw [hds, hempty, List.map_nil]), hvalue, .inl hds⟩
    · rintro ⟨-, hvalue, hds | hds⟩
      · exact ⟨hds, hvalue⟩
      · exact (hsign _ hds).elim

end Unsigned

end Courier
