import Courier.Text.Utf8

/-!
# UTF-8 there and back

The octets that a text is written as are read as that text, for every character: the bounds on the
second octet, which keep overlong forms and surrogates out, never stand in the way of a character.

* `Utf8.decodeFrom_encodeChar` : **the octets of a character are read as that character**, whatever
  comes before and after.
* `Utf8.decode?_encode` : the octets of a text are read as that text.
* `Utf8.le_of_mem_encodeChar` : octets below `80` stand only for themselves.
-/

namespace Courier

namespace Utf8

/-- The bound is a numeral here, which `omega` can read. -/
theorem toNat_ofNat_of_lt {n : Nat} (h : n < 256) : (UInt8.ofNat n).toNat = n :=
  UInt8.toNat_ofNat_of_lt' h

variable {value low high t owed : Nat} {done : List Char} {rest : Bytes}

/-- A further octet of a character, which has to lie between two bounds. -/
theorem step_inside (ht : t < 64) (hlow : low ≤ 0x80 + t) (hhigh : 0x80 + t ≤ high) :
    step (.inside value low high owed) (UInt8.ofNat (0x80 + t)) =
      match owed with
      | 0 => .char (Char.ofNat (value * 64 + t))
      | owed + 1 => .more (.inside (value * 64 + t) 0x80 0xBF owed) := by
  have hoctet : (UInt8.ofNat (0x80 + t)).toNat = 0x80 + t := toNat_ofNat_of_lt (by omega)
  cases owed <;> simp only [step, hoctet, if_pos (And.intro hlow hhigh), Nat.add_sub_cancel_left]

/-- The last octet of a character completes it. -/
theorem decodeFrom_last (ht : t < 64) (hlow : low ≤ 0x80 + t) (hhigh : 0x80 + t ≤ high) :
    decodeFrom (.inside value low high 0) done (UInt8.ofNat (0x80 + t) :: rest) =
      decodeFrom .start (Char.ofNat (value * 64 + t) :: done) rest := by
  rw [decodeFrom, step_inside ht hlow hhigh]

/-- An octet in the middle of a character carries it on. -/
theorem decodeFrom_middle (ht : t < 64) (hlow : low ≤ 0x80 + t) (hhigh : 0x80 + t ≤ high) :
    decodeFrom (.inside value low high (owed + 1)) done (UInt8.ofNat (0x80 + t) :: rest) =
      decodeFrom (.inside (value * 64 + t) 0x80 0xBF owed) done rest := by
  rw [decodeFrom, step_inside ht hlow hhigh]

theorem decodeFrom_single {b : Nat} (h : b < 0x80) :
    decodeFrom .start done (UInt8.ofNat b :: rest) =
      decodeFrom .start (Char.ofNat b :: done) rest := by
  rw [decodeFrom, step, toNat_ofNat_of_lt (by omega), first, if_pos h]

theorem decodeFrom_first {b : Nat} {state : State} (hb : b < 256) (h : first b = .more state) :
    decodeFrom .start done (UInt8.ofNat b :: rest) = decodeFrom state done rest := by
  rw [decodeFrom, step, toNat_ofNat_of_lt hb, h]

/-- The first octet of a character of three octets leaves room for exactly the second ones that
make neither an overlong form nor a surrogate. -/
theorem first_of_three {q m : Nat} (hq : q < 16) (hm : m < 64) (hlong : 32 ≤ q * 64 + m)
    (hsurrogate : q * 64 + m < 864 ∨ 896 ≤ q * 64 + m) :
    ∃ low high, first (0xE0 + q) = .more (.inside q low high 1) ∧
      low ≤ 0x80 + m ∧ 0x80 + m ≤ high := by
  unfold first
  by_cases h0 : q = 0
  · -- lower octets would make an overlong form
    subst h0
    exact ⟨0xA0, 0xBF, rfl, by omega, by omega⟩
  · by_cases h13 : q = 13
    · -- higher octets would make a surrogate
      subst h13
      exact ⟨0x80, 0x9F, rfl, by omega, by omega⟩
    · refine ⟨0x80, 0xBF, ?_, by omega, by omega⟩
      simp only [show ¬ 0xE0 + q < 0x80 by omega, show ¬ 0xE0 + q < 0xC2 by omega,
        show ¬ 0xE0 + q < 0xE0 by omega, show ¬ 0xE0 + q = 0xE0 by omega,
        show ¬ 0xE0 + q = 0xED by omega, show 0xE0 + q < 0xF0 by omega, if_true, if_false,
        Nat.add_sub_cancel_left]

/-- The same for a character of four octets, which lies below the last code point. -/
theorem first_of_four {q m : Nat} (hm : m < 64) (hlong : 16 ≤ q * 64 + m)
    (hlast : q * 64 + m < 272) :
    ∃ low high, first (0xF0 + q) = .more (.inside q low high 2) ∧
      low ≤ 0x80 + m ∧ 0x80 + m ≤ high := by
  unfold first
  by_cases h0 : q = 0
  · subst h0
    exact ⟨0x90, 0xBF, rfl, by omega, by omega⟩
  · by_cases h4 : q = 4
    · subst h4
      exact ⟨0x80, 0x8F, rfl, by omega, by omega⟩
    · refine ⟨0x80, 0xBF, ?_, by omega, by omega⟩
      simp only [show ¬ 0xF0 + q < 0x80 by omega, show ¬ 0xF0 + q < 0xC2 by omega,
        show ¬ 0xF0 + q < 0xE0 by omega, show ¬ 0xF0 + q = 0xE0 by omega,
        show ¬ 0xF0 + q = 0xED by omega, show ¬ 0xF0 + q < 0xF0 by omega,
        show ¬ 0xF0 + q = 0xF0 by omega, show 0xF0 + q < 0xF4 by omega, if_true, if_false,
        Nat.add_sub_cancel_left]

theorem toNat_valid (c : Char) :
    c.toNat < 0xD800 ∨ (0xDFFF < c.toNat ∧ c.toNat < 0x110000) := c.valid

/-- **The octets of a character are read as that character.** -/
theorem decodeFrom_encodeChar (c : Char) (done : List Char) (rest : Bytes) :
    decodeFrom .start done (encodeChar c ++ rest) = decodeFrom .start (c :: done) rest := by
  have hvalid := toNat_valid c
  have hc := Char.ofNat_toNat c
  unfold encodeChar
  -- from here on the character is known by its number only
  generalize c.toNat = n at hvalid hc
  subst hc
  simp only
  split
  · next h => exact decodeFrom_single h
  split
  · next h0 h =>
    have hfirst : first (0xC0 + n / 64) = .more (.inside (n / 64) 0x80 0xBF 0) := by
      unfold first
      rw [if_neg (by omega), if_neg (by omega), if_pos (by omega), Nat.add_sub_cancel_left]
    rw [List.cons_append, decodeFrom_first (by omega) hfirst, List.cons_append,
      decodeFrom_last (by omega) (by omega) (by omega), List.nil_append]
    -- the parts of the number make the number
    congr 3
    omega
  split
  · next h0 h1 h =>
    obtain ⟨low, high, hfirst, hlow, hhigh⟩ :=
      first_of_three (q := n / 4096) (m := n / 64 % 64) (by omega) (by omega) (by omega) (by omega)
    rw [List.cons_append, decodeFrom_first (by omega) hfirst, List.cons_append,
      decodeFrom_middle (by omega) hlow hhigh, List.cons_append,
      decodeFrom_last (by omega) (by omega) (by omega), List.nil_append]
    congr 3
    omega
  · next h0 h1 h2 =>
    obtain ⟨low, high, hfirst, hlow, hhigh⟩ :=
      first_of_four (q := n / 262144) (m := n / 4096 % 64) (by omega) (by omega) (by omega)
    rw [List.cons_append, decodeFrom_first (by omega) hfirst, List.cons_append,
      decodeFrom_middle (by omega) hlow hhigh, List.cons_append,
      decodeFrom_middle (by omega) (by omega) (by omega), List.cons_append,
      decodeFrom_last (by omega) (by omega) (by omega), List.nil_append]
    congr 3
    omega

@[simp] theorem encode_nil : encode [] = [] := rfl

@[simp] theorem encode_cons (c : Char) (cs : List Char) :
    encode (c :: cs) = encodeChar c ++ encode cs := rfl

theorem encode_append (cs cs' : List Char) : encode (cs ++ cs') = encode cs ++ encode cs' :=
  List.flatMap_append

theorem decodeFrom_encode (cs done : List Char) :
    decodeFrom .start done (encode cs) = some (done.reverse ++ cs) := by
  induction cs generalizing done with
  | nil => simp [decodeFrom]
  | cons c cs ih =>
    rw [encode_cons, decodeFrom_encodeChar, ih, List.reverse_cons, List.append_assoc,
      List.singleton_append]

/-- **The octets of a text are read as that text.** -/
theorem decode?_encode (cs : List Char) : decode? (encode cs) = some cs :=
  decodeFrom_encode cs []

/-- Octets below `80` stand only for themselves. -/
theorem le_of_mem_encodeChar {c : Char} {b : UInt8} (hb : b ∈ encodeChar c) :
    0x80 ≤ b.toNat ∨ (b.toNat = c.toNat ∧ c.toNat < 0x80) := by
  have hvalid := toNat_valid c
  unfold encodeChar at hb
  generalize c.toNat = n at hvalid hb
  simp only at hb
  split at hb
  · next h =>
    rw [List.mem_singleton.1 hb, toNat_ofNat_of_lt (by omega)]
    exact .inr ⟨rfl, h⟩
  split at hb
  · simp only [List.mem_cons, List.not_mem_nil, or_false] at hb
    rcases hb with rfl | rfl <;> rw [toNat_ofNat_of_lt (by omega)] <;> omega
  split at hb
  · simp only [List.mem_cons, List.not_mem_nil, or_false] at hb
    rcases hb with rfl | rfl | rfl <;> rw [toNat_ofNat_of_lt (by omega)] <;> omega
  · simp only [List.mem_cons, List.not_mem_nil, or_false] at hb
    rcases hb with rfl | rfl | rfl | rfl <;> rw [toNat_ofNat_of_lt (by omega)] <;> omega

theorem encodeChar_of_lt {c : Char} (h : c.toNat < 0x80) :
    encodeChar c = [UInt8.ofNat c.toNat] := by
  simp only [encodeChar, if_pos h]

end Utf8

end Courier
