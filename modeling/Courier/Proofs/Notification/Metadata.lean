import Courier.Proofs.Json.Member
import Courier.Proofs.Json.Number

/-!
# Maps of scalars

A map is read of an object whose values are scalars, one and all: a value that is overwritten by a
later one under the same name is looked at like any other.  What is left under a name is its last
value, with the kind that it is written in.

* `Json.Value.IsScalar` : truth values, texts and numbers within range.
* `Scalar.Keeps` : a scalar is of the kind of the value that it is read of.
* `Metadata.Gathers` : a map has the last value of each name.
* `metadataOfJson?_eq_some_iff` : **a map is read exactly if every value is a scalar**, and then it
  is the one that gathers them.
* `Reordered` : objects in which only members with different names have changed places.
* `scalars_of_object` : what holds of every object that is given as a map.
* `minusZero_of_object` : but a zero with a minus sign is no integer.
-/

namespace Courier

open Json

/-! ### Scalars -/

/-- Whether a value is a scalar: a truth value, a text or a number within range. -/
def Json.Value.IsScalar (v : Value) : Prop :=
  (∃ b, v = .bool b) ∨ (∃ t, v.text? = some t) ∨ ∃ l n, v = .number l ∧ l.number? = some n

/-- A scalar that is of the kind of a value.  An integer of 64 bits keeps its digits, except for a
zero with a minus sign. -/
structure Scalar.Keeps (s : Scalar) (v : Value) : Prop where
  bool : ∀ b, v = .bool b → s = .bool b
  text : ∀ t, v.text? = some t → s = .text t ∧ s.display = t
  number : ∀ l, v = .number l → ∃ n, l.number? = some n ∧ s = .number n
  integer : ∀ l (z : Int), v = .number l → l.int? = some z → -9223372036854775808 ≤ z →
    z < 18446744073709551616 → l.isMinusZero = false →
      (∃ n : WideInt, n.val = z ∧ s = .number (.integer n)) ∧ s.display = Decimal.intText z ∧
        (l.WellFormed → s.display = String.ofList l.chars)

variable {v : Value} {s : Scalar}

theorem Scalar.keeps_number {l : Literal} {n : Number} (h : l.number? = some n) :
    Scalar.Keeps (.number n) (.number l) where
  bool _ heq := by cases heq
  text _ heq := by cases heq
  number l' heq := by
    cases heq
    exact ⟨n, h, rfl⟩
  integer l' z heq hz hle hlt hzero := by
    cases heq
    have hinteger := number?_eq_integer_iff (n := ⟨z, hle, hlt⟩).2 ⟨hz, hzero⟩
    obtain rfl := Option.some.inj (h.symm.trans hinteger)
    refine ⟨⟨_, rfl, rfl⟩, rfl, fun hformed => ?_⟩
    rw [eq_ofInt_of_int? hformed hz hzero, chars_ofInt]
    rfl

/-- A value is read as a scalar of its kind, if it is one at all. -/
theorem Scalar.ofJson?_eq_some_iff : ofJson? v = some s ↔ v.IsScalar ∧ s.Keeps v := by
  constructor
  · intro h
    cases v with
    | bool b =>
      cases h
      exact ⟨.inl ⟨b, rfl⟩, ⟨by rintro _ ⟨⟩; rfl, nofun, nofun, nofun⟩⟩
    | number l =>
      obtain ⟨n, hn, rfl⟩ := Option.map_eq_some_iff.1 h
      exact ⟨.inr (.inr ⟨l, n, rfl, hn⟩), keeps_number hn⟩
    | string raw =>
      obtain ⟨t, ht, rfl⟩ := Option.map_eq_some_iff.1 h
      refine ⟨.inr (.inl ⟨t, ht⟩), ⟨nofun, fun t' ht' => ?_, nofun, nofun⟩⟩
      obtain rfl := Option.some.inj (ht.symm.trans ht')
      exact ⟨rfl, rfl⟩
    | _ => cases h
  · rintro ⟨⟨b, rfl⟩ | ⟨t, ht⟩ | ⟨l, n, rfl, hn⟩, hkeeps⟩
    · rw [hkeeps.bool b rfl]
      rfl
    · rw [(hkeeps.text t ht).1]
      cases v with
      | string raw => exact congrArg (Option.map Scalar.text) ht
      | _ => cases ht
    · obtain ⟨n', hn', rfl⟩ := hkeeps.number l rfl
      exact congrArg (Option.map Scalar.number) hn'

theorem Json.Value.IsScalar.exists_ofJson? (h : v.IsScalar) : ∃ s, Scalar.ofJson? v = some s := by
  rcases h with ⟨b, rfl⟩ | ⟨t, ht⟩ | ⟨l, n, rfl, hn⟩
  · exact ⟨_, rfl⟩
  · cases v with
    | string raw => exact ⟨_, congrArg (Option.map Scalar.text) ht⟩
    | _ => cases ht
  · exact ⟨_, congrArg (Option.map Scalar.number) hn⟩

/-! ### Maps -/

/-- A map with the last value of each name. -/
structure Metadata.Gathers (members : List (String × Value)) (m : Metadata) : Prop where
  keys : ∀ key, (m.get? key).isSome ↔ key ∈ members.map Prod.fst
  last : ∀ before key v after, members = before ++ (key, v) :: after →
    key ∉ after.map Prod.fst → ∃ s, m.get? key = some s ∧ s.Keeps v

/-- A value that can be read as a map, whatever is left of it: an object of scalars. -/
def Metadata.Accepts (v : Value) : Prop :=
  ∃ raw members, v = .object raw ∧ named? raw = some members ∧ ∀ e ∈ members, e.2.IsScalar

/-- A map that is given by a value: it gathers the scalars of an object. -/
def Metadata.Given (v : Value) (m : Metadata) : Prop :=
  ∃ raw members, v = .object raw ∧ named? raw = some members ∧ (∀ e ∈ members, e.2.IsScalar) ∧
    Gathers members m

variable {raw raw' : List (Raw × Value)} {members : List (String × Value)} {m m' : Metadata}

theorem addScalar?_eq_some_iff {r : Raw} : addScalar? m (r, v) = some m' ↔
    ∃ key s, unquote? r = some key ∧ Scalar.ofJson? v = some s ∧ m' = m.insert key s := by
  unfold addScalar?
  constructor
  · intro h
    split at h
    · next key s hkey hs => exact ⟨key, s, hkey, hs, (Option.some.inj h).symm⟩
    · cases h
  · rintro ⟨key, s, hkey, hs, rfl⟩
    rw [hkey, hs]

/-- Scalars are added one after the other. -/
theorem exists_foldlM_addScalar? (hraw : named? raw = some members)
    (hscalar : ∀ e ∈ members, e.2.IsScalar) (before : Metadata) :
    ∃ m, raw.foldlM addScalar? before = some m := by
  induction raw generalizing before members with
  | nil => exact ⟨before, rfl⟩
  | cons e raw ih =>
    obtain ⟨key, rest, hkey, hrest, rfl⟩ := named?_cons_eq_some_iff.1 hraw
    obtain ⟨s, hs⟩ := (hscalar _ List.mem_cons_self).exists_ofJson?
    have hadd : addScalar? before e = some (before.insert key s) :=
      addScalar?_eq_some_iff.2 ⟨key, s, hkey, hs, rfl⟩
    rw [List.foldlM_cons, hadd]
    exact ih hrest (fun e' he' => hscalar e' (List.mem_cons_of_mem _ he')) _

/-- What is under a key after members have been added: the last value under that name, or what was
there before. -/
theorem get?_of_foldlM_addScalar? {before : Metadata} (h : raw.foldlM addScalar? before = some m) :
    ∃ members, named? raw = some members ∧ (∀ e ∈ members, e.2.IsScalar) ∧
      ∀ key, m.get? key =
        ((members.reverse.lookup key).bind Scalar.ofJson?).or (before.get? key) := by
  induction raw generalizing before with
  | nil =>
    cases h
    exact ⟨[], rfl, List.forall_mem_nil _, fun _ => rfl⟩
  | cons e raw ih =>
    obtain ⟨r, v⟩ := e
    rw [List.foldlM_cons, Option.bind_eq_bind, Option.bind_eq_some_iff] at h
    obtain ⟨next, hnext, h⟩ := h
    obtain ⟨key', s, hkey, hs, rfl⟩ := addScalar?_eq_some_iff.1 hnext
    obtain ⟨rest, hrest, hscalar, hget⟩ := ih h
    refine ⟨_, named?_cons_eq_some_iff.2 ⟨key', rest, hkey, hrest, rfl⟩,
      List.forall_mem_cons.2 ⟨(Scalar.ofJson?_eq_some_iff.1 hs).1, hscalar⟩, fun key => ?_⟩
    rw [hget, Keyed.get?_insert, List.reverse_cons, List.lookup_append]
    cases hlast : rest.reverse.lookup key with
    | some w =>
      -- a later member counts, and it is a scalar
      obtain ⟨_, _, rfl, -⟩ := lookup_reverse_eq_some_iff.1 hlast
      obtain ⟨t, ht⟩ := (hscalar (key, w) (by simp)).exists_ofJson?
      simp [ht]
    | none =>
      by_cases hkey' : key = key'
      · subst hkey'
        simp [hs]
      · simp [hkey', List.lookup_cons, beq_false_of_ne hkey']

/-- Whatever name there is, it has a last value. -/
theorem exists_last {key : String} (h : key ∈ members.map Prod.fst) :
    ∃ before v after, members = before ++ (key, v) :: after ∧ key ∉ after.map Prod.fst := by
  have hfound : (members.reverse.lookup key).isSome :=
    Keyed.isSome_lookup_iff.2 (by simpa using h)
  obtain ⟨v, hv⟩ := Option.isSome_iff_exists.1 hfound
  obtain ⟨before, after, hsplit, hlast⟩ := lookup_reverse_eq_some_iff.1 hv
  exact ⟨before, v, after, hsplit, hlast⟩

theorem Metadata.gathers_of_foldlM (h : raw.foldlM addScalar? .empty = some m) :
    ∃ members, named? raw = some members ∧ (∀ e ∈ members, e.2.IsScalar) ∧ Gathers members m := by
  obtain ⟨members, hraw, hscalar, hget⟩ := get?_of_foldlM_addScalar? h
  have hlast : ∀ before key v after, members = before ++ (key, v) :: after →
      key ∉ after.map Prod.fst → ∃ s, m.get? key = some s ∧ s.Keeps v := by
    rintro before key v after rfl hafter
    obtain ⟨s, hs⟩ := (hscalar (key, v) (by simp)).exists_ofJson?
    refine ⟨s, ?_, (Scalar.ofJson?_eq_some_iff.1 hs).2⟩
    rw [hget, lookup_reverse_eq_some_iff.2 ⟨before, after, rfl, hafter⟩, Option.bind_some, hs]
    rfl
  refine ⟨members, hraw, hscalar, fun key => ⟨fun h => ?_, fun h => ?_⟩, hlast⟩
  · rw [hget] at h
    cases hlookup : members.reverse.lookup key with
    | none =>
      rw [hlookup] at h
      cases h
    | some v =>
      obtain ⟨before, after, rfl, -⟩ := lookup_reverse_eq_some_iff.1 hlookup
      simp
  · obtain ⟨before, v, after, hsplit, hafter⟩ := exists_last h
    obtain ⟨s, hs, -⟩ := hlast before key v after hsplit hafter
    rw [hs]
    rfl

/-- Scalars are gathered in one way only. -/
theorem Metadata.Gathers.unique (hscalar : ∀ e ∈ members, e.2.IsScalar) (h : Gathers members m)
    (h' : Gathers members m') : m = m' := by
  refine Keyed.ext_get? fun key => ?_
  by_cases hkey : key ∈ members.map Prod.fst
  · obtain ⟨before, v, after, hsplit, hafter⟩ := exists_last hkey
    obtain ⟨s, hs, hkeeps⟩ := h.last before key v after hsplit hafter
    obtain ⟨s', hs', hkeeps'⟩ := h'.last before key v after hsplit hafter
    have hv : v.IsScalar := hscalar (key, v) (by simp [hsplit])
    have hread := Scalar.ofJson?_eq_some_iff.2 ⟨hv, hkeeps⟩
    rw [hs, hs', ← hread, Scalar.ofJson?_eq_some_iff.2 ⟨hv, hkeeps'⟩]
  · have hnone := mt (h.keys key).1 hkey
    have hnone' := mt (h'.keys key).1 hkey
    rw [Option.not_isSome_iff_eq_none] at hnone hnone'
    rw [hnone, hnone']

/-- **A map is read exactly if every value is a scalar**, and then it is the one that gathers
them. -/
theorem metadataOfJson?_eq_some_iff : metadataOfJson? v = some m ↔ Metadata.Given v m := by
  constructor
  · intro h
    cases v with
    | object raw =>
      obtain ⟨members, hraw, hscalar, hgathers⟩ := Metadata.gathers_of_foldlM h
      exact ⟨raw, members, rfl, hraw, hscalar, hgathers⟩
    | _ => cases h
  · rintro ⟨raw, members, rfl, hraw, hscalar, hgathers⟩
    obtain ⟨m', hm'⟩ := exists_foldlM_addScalar? hraw hscalar .empty
    obtain ⟨members', hraw', -, hgathers'⟩ := Metadata.gathers_of_foldlM hm'
    obtain rfl := Option.some.inj (hraw.symm.trans hraw')
    rw [hgathers.unique hscalar hgathers']
    exact hm'

theorem Metadata.exists_given_iff : (∃ m, Given v m) ↔ Accepts v := by
  constructor
  · rintro ⟨m, raw, members, hv, hraw, hscalar, -⟩
    exact ⟨raw, members, hv, hraw, hscalar⟩
  · rintro ⟨raw, members, rfl, hraw, hscalar⟩
    obtain ⟨m, hm⟩ := exists_foldlM_addScalar? hraw hscalar .empty
    exact ⟨m, metadataOfJson?_eq_some_iff.1 hm⟩

/-! ### Reordering -/

/-- Objects in which only members with different names have changed places. -/
structure Reordered (raw raw' : List (Raw × Value)) : Prop where
  perm : raw.Perm raw'
  order : ∀ key, (raw.filter fun e => decide (unquote? e.1 = some key)) =
    raw'.filter fun e => decide (unquote? e.1 = some key)

theorem Reordered.symm (h : Reordered raw raw') : Reordered raw' raw :=
  ⟨h.perm.symm, fun key => (h.order key).symm⟩

/-- The members with a name are those whose names are read as it. -/
theorem named?_filter_key (key : String) (h : named? raw = some members) :
    named? (raw.filter fun e => decide (unquote? e.1 = some key)) =
      some (members.filter fun e => decide (e.1 = key)) := by
  induction raw generalizing members with
  | nil =>
    cases h
    rfl
  | cons e raw ih =>
    obtain ⟨r, v⟩ := e
    obtain ⟨name, rest, hname, hrest, rfl⟩ := named?_cons_eq_some_iff.1 h
    by_cases hkey : name = key
    · subst hkey
      rw [List.filter_cons_of_pos (by simp [hname]), List.filter_cons_of_pos (by simp)]
      exact named?_cons_eq_some_iff.2 ⟨name, _, hname, ih hrest, rfl⟩
    · rw [List.filter_cons_of_neg (by simpa [hname] using hkey),
        List.filter_cons_of_neg (by simpa using hkey)]
      exact ih hrest

/-- The last value of each name stays the last one. -/
theorem Reordered.given (h : Reordered raw raw') (hm : Metadata.Given (.object raw) m) :
    Metadata.Given (.object raw') m := by
  obtain ⟨_, members, heq, hraw, hscalar, hgathers⟩ := hm
  cases heq
  obtain ⟨members', hraw', hperm⟩ := named?_perm h.perm hraw
  have hsame : ∀ key, members.reverse.lookup key = members'.reverse.lookup key := by
    intro key
    have hfilter := (named?_filter_key key hraw).symm.trans
      ((congrArg named? (h.order key)).trans (named?_filter_key key hraw'))
    rw [← lookup_filter_key, ← lookup_filter_key key members'.reverse, List.filter_reverse,
      List.filter_reverse, Option.some.inj hfilter]
  refine ⟨raw', members', rfl, hraw', fun e he => hscalar e (hperm.mem_iff.2 he), ?_, ?_⟩
  · intro key
    rw [hgathers.keys, (hperm.map Prod.fst).mem_iff]
  · intro before key v after hsplit hafter
    have hlast := lookup_reverse_eq_some_iff.2 ⟨before, after, hsplit, hafter⟩
    rw [← hsame key] at hlast
    obtain ⟨before', after', hsplit', hafter'⟩ := lookup_reverse_eq_some_iff.1 hlast
    exact hgathers.last before' key v after' hsplit' hafter'

/-! ### The maps of objects -/

/-- **What is read of an object as a map.**  Every value has to be a scalar, also one that is
overwritten; then the map has the last value of each name, and the order of the members matters only
among those with the same name. -/
theorem scalars_of_object (raw : List (Raw × Value)) :
    ((∃ m, metadataOfJson? (.object raw) = some m) ↔
      ∃ members, named? raw = some members ∧ ∀ e ∈ members, e.2.IsScalar) ∧
    (∀ m, metadataOfJson? (.object raw) = some m →
      ∃ members, named? raw = some members ∧ Metadata.Gathers members m) ∧
    ∀ raw', Reordered raw raw' → metadataOfJson? (.object raw') = metadataOfJson? (.object raw) := by
  refine ⟨?_, fun m hm => ?_, fun raw' horder => Option.ext fun m => ?_⟩
  · simp only [metadataOfJson?_eq_some_iff]
    rw [Metadata.exists_given_iff]
    constructor
    · rintro ⟨_, members, heq, hraw, hscalar⟩
      cases heq
      exact ⟨members, hraw, hscalar⟩
    · rintro ⟨members, hraw, hscalar⟩
      exact ⟨raw, members, rfl, hraw, hscalar⟩
  · obtain ⟨_, members, heq, hraw, -, hgathers⟩ := metadataOfJson?_eq_some_iff.1 hm
    cases heq
    exact ⟨members, hraw, hgathers⟩
  · simp only [metadataOfJson?_eq_some_iff]
    constructor
    · intro hm
      exact horder.symm.given hm
    · intro hm
      exact horder.given hm

/-- A name that is given twice has its later value, and another member may stand anywhere. -/
theorem scalars_of_repeated :
    ∃ m members, metadataOfJson? (.object [(quote "a", .bool true),
        (quote "n", .number ⟨true, [7], [], none⟩), (quote "a", .string (quote "b"))]) = some m ∧
      named? [(quote "a", .bool true), (quote "n", .number ⟨true, [7], [], none⟩),
        (quote "a", .string (quote "b"))] = some members ∧ Metadata.Gathers members m ∧
      metadataOfJson? (.object [(quote "a", .bool true), (quote "a", .string (quote "b")),
        (quote "n", .number ⟨true, [7], [], none⟩)]) = some m := by
  obtain ⟨-, hgathers, horder⟩ := scalars_of_object [(quote "a", .bool true),
    (quote "n", .number ⟨true, [7], [], none⟩), (quote "a", .string (quote "b"))]
  have hm : metadataOfJson? (.object [(quote "a", .bool true),
      (quote "n", .number ⟨true, [7], [], none⟩), (quote "a", .string (quote "b"))]) =
        some (.ofList [("a", .text "b"), ("n", .number (.integer ⟨-7, by decide, by decide⟩))]) := by
    decide +kernel
  obtain ⟨members, hraw, hmembers⟩ := hgathers _ hm
  refine ⟨_, members, hm, hraw, hmembers, (horder _ ⟨?_, fun key => ?_⟩).trans hm⟩
  · exact .cons _ (.swap _ _ _)
  · -- the names differ, so that at most one of the two can be the key
    simp only [List.filter_cons, unquote?_quote, Option.some.injEq]
    by_cases hkey : "a" = key
    · subst hkey
      rfl
    · rw [decide_eq_false hkey]
      rfl

/-- A zero with a minus sign is written as an integer, but the map has a double for it. -/
theorem minusZero_of_object :
    Literal.minusZero.int? = some 0 ∧
      ∃ m s, metadataOfJson? (.object [(quote "n", .number .minusZero)]) = some m ∧
        m.get? "n" = some s ∧ (∀ n : WideInt, s ≠ .number (.integer n)) ∧
        s.display ≠ Decimal.intText 0 := by
  refine ⟨rfl, .ofList [("n", .number (.double ⟨true, .zero⟩))], .number (.double ⟨true, .zero⟩),
    ?_, ?_, ?_, ?_⟩
  · decide +kernel
  · rfl
  · rintro n ⟨⟩
  · decide +kernel

end Courier
