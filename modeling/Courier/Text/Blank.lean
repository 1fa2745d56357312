/-!
# White space and control characters

The white space of text that people write is the `White_Space` property of Unicode, which is wider
than the four blanks of a data format and narrower than everything that prints as nothing: a
zero-width space and a byte order mark are not in it.

## Main definitions

* `isBlank`: the `White_Space` property.
* `isControl`: the general category `Cc`.
* `trim`: a string without white space at either end.
-/

namespace Courier

namespace Text

/-- The code points with the `White_Space` property, as inclusive ranges. -/
def blankRanges : List (Nat × Nat) :=
  [(0x09, 0x0D), (0x20, 0x20), (0x85, 0x85), (0xA0, 0xA0), (0x1680, 0x1680), (0x2000, 0x200A),
    (0x2028, 0x2029), (0x202F, 0x202F), (0x205F, 0x205F), (0x3000, 0x3000)]

/-- Whether a character is white space. -/
def isBlank (c : Char) : Bool :=
  blankRanges.any fun (low, high) => low ≤ c.toNat && c.toNat ≤ high

/-- Whether a character is a control character. -/
def isControl (c : Char) : Bool :=
  c.toNat < 0x20 || (0x7F ≤ c.toNat && c.toNat ≤ 0x9F)

/-- The characters without those at the end that satisfy `p`. -/
def dropRightWhile (p : Char → Bool) (cs : List Char) : List Char :=
  (cs.reverse.dropWhile p).reverse

/-- The characters without white space at either end. -/
def trimChars (cs : List Char) : List Char :=
  dropRightWhile isBlank (cs.dropWhile isBlank)

/-- A string without white space at either end. -/
def trim (s : String) : String := String.ofList (trimChars s.toList)

/-- Whether a string is empty or all white space. -/
def isAllBlank (s : String) : Bool := s.toList.all isBlank

/-- Characters at the end that satisfy `p` count for nothing. -/
theorem dropRightWhile_append {p : Char → Bool} {cs tail : List Char} (h : ∀ c ∈ tail, p c = true) :
    dropRightWhile p (cs ++ tail) = dropRightWhile p cs := by
  unfold dropRightWhile
  rw [List.reverse_append, List.dropWhile_append_of_pos fun c hc => h c (List.mem_reverse.1 hc)]

/-- What is dropped is the longest end that satisfies `p`. -/
theorem dropRightWhile_append_takeWhile (p : Char → Bool) (cs : List Char) :
    dropRightWhile p cs ++ (cs.reverse.takeWhile p).reverse = cs := by
  rw [dropRightWhile, ← List.reverse_append, List.takeWhile_append_dropWhile, List.reverse_reverse]

/-- A string without white space is not trimmed. -/
theorem trim_eq_self {s : String} (h : ∀ c ∈ s.toList, isBlank c = false) : trim s = s := by
  have hfront : s.toList.dropWhile isBlank = s.toList := by
    cases hs : s.toList with
    | nil => rfl
    | cons c cs => exact List.dropWhile_cons_of_neg (by simp [h c (by simp [hs])])
  have hback : s.toList.reverse.dropWhile isBlank = s.toList.reverse := by
    cases hs : s.toList.reverse with
    | nil => rfl
    | cons c cs =>
      have hc : c ∈ s.toList := List.mem_reverse.1 (by simp [hs])
      exact List.dropWhile_cons_of_neg (by simp [h c hc])
  rw [trim, trimChars, hfront, dropRightWhile, hback, List.reverse_reverse, String.ofList_toList]

end Text

end Courier
