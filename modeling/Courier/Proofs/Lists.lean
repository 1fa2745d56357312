/-!
# Lists with one entry changed

Systems of many participants are kept in lists, and a step is about one of them.  These lemmas say
what such a step means for all of them.

* `forall_getElem?_set` : what holds of the others and of the changed one holds of all.
* `countP_range_update` : two counts differ only where the counted properties do.
* `filter_key_eq` : without equal keys, a key picks its only entry.
* `eq_of_countP_key` : entries under a key that does not occur twice are equal.
* `lookup_cons_eq` : what is under a key in a list with one more entry.
* `lookup_reverse_eq_some_iff`, `lookup_filter_key` : what is under a key last of all, and that other
  keys have no part in it.
* `lookup_reverse`, `lookup_map_snd` : what is under a key in a list turned around, and with other
  values.
* `forall_mem_update`, `perm_flatMap_update` : the same for an entry between others, and for what
  entries contribute.

What has been done of a plan in two parts is placed by its last step.

* `split_snoc` : an entry of a list with one more is that one, or it was there before.
* `prefix_of_not_mem` : if that is not in the first part, the first part has been done before.
* `prefix_left_of_not_mem` : if it is not in the second part, only the first part has been begun.
-/

namespace Courier

variable {α β : Type}

/-- What holds of the others and of the changed entry holds of all entries. -/
theorem forall_getElem?_set {P : Nat → α → Prop} {l : List α} {i : Nat} {a : α} (ha : P i a)
    (h : ∀ j b, j ≠ i → l[j]? = some b → P j b) (j : Nat) (b : α)
    (hget : (l.set i a)[j]? = some b) : P j b := by
  by_cases hj : i = j
  · subst hj
    have hi : i < l.length := by simpa using (List.getElem?_eq_some_iff.1 hget).1
    rw [List.getElem?_set_self hi] at hget
    cases hget
    exact ha
  · rw [List.getElem?_set_ne hj] at hget
    exact h j b (Ne.symm hj) hget

/-- Two counts differ only where the counted properties do. -/
theorem countP_range_update {f g : Nat → Bool} {i n : Nat} (hi : i < n)
    (h : ∀ j, j ≠ i → f j = g j) :
    (List.range n).countP f + (if g i = true then 1 else 0) =
      (List.range n).countP g + (if f i = true then 1 else 0) := by
  induction n with
  | zero => exact absurd hi (Nat.not_lt_zero _)
  | succ n ih =>
    simp only [List.range_succ, List.countP_append, List.countP_singleton]
    by_cases hn : i = n
    · subst hn
      have hrest : (List.range i).countP f = (List.range i).countP g :=
        List.countP_congr fun j hj => by
          rw [h j (Nat.ne_of_lt (List.mem_range.1 hj))]
      omega
    · have := ih (by omega)
      rw [h n (Ne.symm hn)]
      omega

/-- In a list without equal keys, a key picks its only entry. -/
theorem filter_key_eq [BEq β] [LawfulBEq β] {key : α → β} {l : List α}
    (hl : (l.map key).Nodup) {a : α} (ha : a ∈ l) : (l.filter fun x => key x == key a) = [a] := by
  induction l with
  | nil => cases ha
  | cons b l ih =>
    rw [List.map_cons, List.nodup_cons] at hl
    rcases List.mem_cons.1 ha with rfl | ha
    · have hrest : (l.filter fun x => key x == key a) = [] := by
        rw [List.filter_eq_nil_iff]
        intro x hx heq
        exact hl.1 (List.mem_map.2 ⟨x, hx, eq_of_beq heq⟩)
      rw [List.filter_cons, if_pos (beq_self_eq_true _), hrest]
    · have hne : ¬(key b == key a) = true := fun heq =>
        hl.1 (eq_of_beq heq ▸ List.mem_map_of_mem ha)
      rw [List.filter_cons, if_neg hne, ih hl.2 ha]

/-- Entries under a key that does not occur twice are equal. -/
theorem eq_of_countP_key [BEq β] [LawfulBEq β] {key : α → β} {k : β} {l : List α}
    (hl : l.countP (fun x => key x == k) ≤ 1) {a b : α} (ha : a ∈ l) (hb : b ∈ l)
    (hka : key a = k) (hkb : key b = k) : a = b := by
  rw [List.countP_eq_length_filter] at hl
  have ha' : a ∈ l.filter fun x => key x == k := List.mem_filter.2 ⟨ha, beq_iff_eq.2 hka⟩
  have hb' : b ∈ l.filter fun x => key x == k := List.mem_filter.2 ⟨hb, beq_iff_eq.2 hkb⟩
  obtain ⟨x, hx⟩ := List.length_eq_one_iff.1 (Nat.le_antisymm hl (List.length_pos_of_mem ha'))
  rw [hx, List.mem_singleton] at ha' hb'
  rw [ha', hb']

/-- What is under a key in a list with one more entry. -/
theorem lookup_cons_eq [BEq α] [LawfulBEq α] [DecidableEq α] (k k' : α) (b : β)
    (l : List (α × β)) : ((k', b) :: l).lookup k = if k = k' then some b else l.lookup k := by
  by_cases h : k = k'
  · subst h
    rw [List.lookup_cons_self, if_pos rfl]
  · have hne : (k == k') = false := beq_false_of_ne h
    rw [List.lookup_cons, hne, if_neg h]

/-- What is under a key first from behind is what is under it last. -/
theorem lookup_reverse_eq_some_iff [BEq α] [LawfulBEq α] {l : List (α × β)} {k : α} {b : β} :
    l.reverse.lookup k = some b ↔
      ∃ before after, l = before ++ (k, b) :: after ∧ k ∉ after.map Prod.fst := by
  rw [List.lookup_eq_some_iff]
  constructor
  · rintro ⟨after, before, hl, hafter⟩
    refine ⟨before.reverse, after.reverse, ?_, fun hmem => ?_⟩
    · rw [← List.reverse_reverse l, hl]
      simp
    · obtain ⟨p, hp, heq⟩ := List.mem_map.1 hmem
      exact bne_iff_ne.1 (hafter p (List.mem_reverse.1 hp)) heq.symm
  · rintro ⟨before, after, rfl, hafter⟩
    refine ⟨after.reverse, before.reverse, by simp, fun p hp => bne_iff_ne.2 ?_⟩
    rintro rfl
    exact hafter (List.mem_map_of_mem (List.mem_reverse.1 hp))

/-- Nothing is under a key that does not occur. -/
theorem lookup_eq_none [BEq α] [LawfulBEq α] {k : α} {l : List (α × β)}
    (h : k ∉ l.map Prod.fst) : l.lookup k = none := by
  refine List.lookup_eq_none_iff.2 fun e he => bne_iff_ne.2 ?_
  intro heq
  exact h (List.mem_map.2 ⟨e, he, heq.symm⟩)

/-- If no key occurs twice, what is under a key does not depend on the order. -/
theorem lookup_reverse [BEq α] [LawfulBEq α] [DecidableEq α] {l : List (α × β)}
    (h : (l.map Prod.fst).Nodup) (k : α) : l.reverse.lookup k = l.lookup k := by
  induction l with
  | nil => rfl
  | cons e l ih =>
    obtain ⟨k', b⟩ := e
    obtain ⟨hfirst, hrest⟩ := List.nodup_cons.1 h
    rw [List.reverse_cons, List.lookup_append, ih hrest, lookup_cons_eq, lookup_cons_eq,
      List.lookup_nil]
    by_cases hk : k = k'
    · subst hk
      rw [lookup_eq_none hfirst, if_pos rfl, Option.none_or]
    · rw [if_neg hk, if_neg hk, Option.or_none]

/-- What is under a key after all values have been changed. -/
theorem lookup_map_snd {γ : Type} [BEq α] [LawfulBEq α] [DecidableEq α] (f : β → γ)
    (l : List (α × β)) (k : α) :
    (l.map fun e => (e.1, f e.2)).lookup k = (l.lookup k).map f := by
  induction l with
  | nil => rfl
  | cons e l ih =>
    obtain ⟨k', b⟩ := e
    rw [List.map_cons, lookup_cons_eq, lookup_cons_eq, ih]
    by_cases hk : k = k'
    · rw [if_pos hk, if_pos hk, Option.map_some]
    · rw [if_neg hk, if_neg hk]

/-- Entries with other keys have no part in what is under a key. -/
theorem lookup_filter_key [BEq α] [LawfulBEq α] [DecidableEq α] (k : α) (l : List (α × β)) :
    (l.filter fun e => decide (e.1 = k)).lookup k = l.lookup k := by
  induction l with
  | nil => rfl
  | cons e l ih =>
    obtain ⟨k', b⟩ := e
    by_cases h : k' = k
    · subst h
      simp
    · rw [List.filter_cons_of_neg (by simpa using h), ih, lookup_cons_eq, if_neg (Ne.symm h)]

/-- What holds of all entries and of the one that replaces another holds of all again. -/
theorem forall_mem_update {P : α → Prop} {before after : List α} {a a' : α}
    (h : ∀ x ∈ before ++ a :: after, P x) (ha : P a') : ∀ x ∈ before ++ a' :: after, P x := by
  rw [List.forall_mem_append, List.forall_mem_cons] at h ⊢
  exact ⟨h.1, ha, h.2.2⟩

/-- An entry that contributes more adds that to what all of them contribute. -/
theorem perm_flatMap_update {f : α → List β} {before after : List α} {a a' : α}
    {more bs rest : List β} (ha : f a' = f a ++ more)
    (h : bs.Perm ((before ++ a :: after).flatMap f ++ rest)) :
    (bs ++ more).Perm ((before ++ a' :: after).flatMap f ++ rest) := by
  have hmoved : (after.flatMap f ++ rest ++ more).Perm (more ++ (after.flatMap f ++ rest)) :=
    List.perm_append_comm
  have hall := (hmoved.append_left (f a)).append_left (before.flatMap f)
  refine (h.append_right more).trans ?_
  simpa only [List.flatMap_append, List.flatMap_cons, ha, List.append_assoc] using hall

/-- An entry of a list with one more is that one, or it was there before. -/
theorem split_snoc {l before after : List α} {x y : α} (h : l ++ [y] = before ++ x :: after) :
    after = [] ∧ before = l ∧ x = y ∨ ∃ rest, after = rest ++ [y] ∧ l = before ++ x :: rest := by
  rcases List.eq_nil_or_concat after with rfl | ⟨rest, last, rfl⟩
  · obtain ⟨rfl, hlast⟩ := List.append_inj' h rfl
    cases hlast
    exact .inl ⟨rfl, rfl, rfl⟩
  · have hsnoc : l ++ [y] = (before ++ x :: rest) ++ [last] := by simpa using h
    obtain ⟨rfl, hlast⟩ := List.append_inj' hsnoc rfl
    cases hlast
    exact .inr ⟨rest, List.concat_eq_append, rfl⟩

/-- If the last step is not in the first part of a plan, that part has been done before it. -/
theorem prefix_of_not_mem {l l₁ l₂ : List α} {a : α} (h : l ++ [a] <+: l₁ ++ l₂) (ha : a ∉ l₁) :
    l₁ <+: l := by
  have hmem : a ∈ l ++ [a] := List.mem_append_right l (List.mem_singleton.2 rfl)
  rcases List.prefix_or_prefix_of_prefix h (List.prefix_append l₁ l₂) with hle | hle
  · exact absurd (hle.subset hmem) ha
  · rcases List.prefix_concat_iff.1 hle with rfl | hle
    · exact absurd hmem ha
    · exact hle

/-- If the last step is not in the second part of a plan, that part has not been begun. -/
theorem prefix_left_of_not_mem {l l₁ l₂ : List α} {a : α} (h : l ++ [a] <+: l₁ ++ l₂)
    (ha : a ∉ l₂) : l ++ [a] <+: l₁ := by
  obtain ⟨t, ht⟩ := h
  rcases List.append_eq_append_iff.1 ht with ⟨m, rfl, -⟩ | ⟨m, hm, rfl⟩
  · exact List.prefix_append _ _
  · cases m with
    | nil =>
      rw [List.append_nil] at hm
      exact hm ▸ List.prefix_refl _
    | cons x m =>
      rcases split_snoc hm with ⟨-, -, rfl⟩ | ⟨rest, rfl, -⟩
      · exact absurd (by simp) ha
      · exact absurd (by simp) ha

end Courier
