/-!
# Maps with ordered string keys

A map holds its entries in the order of their keys, which is the order of the code points as well
as that of the octets of the keys, and a key occurs once; so two maps with the same contents are
equal.

## Main definitions

* `Keyed`: a map.
* `Keyed.insert`, `Keyed.get?`, `Keyed.ofList`.
-/

namespace Courier

/-- The entries of a map, every key below the ones after it. -/
def Ascending {α : Type} (entries : List (String × α)) : Prop :=
  entries.Pairwise fun a b => a.1 < b.1

instance {α : Type} (entries : List (String × α)) : Decidable (Ascending entries) :=
  inferInstanceAs (Decidable (entries.Pairwise fun a b => a.1 < b.1))

/-- The entries with `key` set to `value`. -/
def insertEntry {α : Type} (key : String) (value : α) : List (String × α) → List (String × α)
  | [] => [(key, value)]
  | (k, v) :: rest =>
    if key < k then (key, value) :: (k, v) :: rest
    else if key = k then (key, value) :: rest
    else (k, v) :: insertEntry key value rest

/-- The keys after an insertion are the new one and those before. -/
theorem mem_insertEntry {α : Type} {key : String} {value : α} {entries : List (String × α)}
    {e : String × α} (h : e ∈ insertEntry key value entries) : e = (key, value) ∨ e ∈ entries := by
  induction entries with
  | nil => simpa [insertEntry] using h
  | cons head rest ih =>
    simp only [insertEntry] at h
    split at h
    · simpa using h
    · split at h
      · rcases List.mem_cons.1 h with h | h
        · exact .inl h
        · exact .inr (List.mem_cons_of_mem _ h)
      · rcases List.mem_cons.1 h with h | h
        · exact .inr (h ▸ List.mem_cons_self)
        · exact (ih h).imp id (List.mem_cons_of_mem _)

/-- An insertion keeps the order. -/
theorem ascending_insertEntry {α : Type} {key : String} {value : α}
    {entries : List (String × α)} (h : Ascending entries) :
    Ascending (insertEntry key value entries) := by
  induction entries with
  | nil => simp [insertEntry, Ascending]
  | cons head rest ih =>
    obtain ⟨first, later⟩ := List.pairwise_cons.1 h
    simp only [insertEntry]
    split
    · next lt =>
      refine List.pairwise_cons.2 ⟨fun e he => ?_, h⟩
      rcases List.mem_cons.1 he with rfl | he
      · exact lt
      · exact String.lt_trans lt (first e he)
    · next notLt =>
      split
      · next eq =>
        subst eq
        exact List.pairwise_cons.2 ⟨first, later⟩
      · next ne =>
        refine List.pairwise_cons.2 ⟨fun e he => ?_, ih later⟩
        rcases mem_insertEntry he with rfl | he
        · exact Std.lt_of_le_of_ne (String.not_lt.1 notLt) (Ne.symm ne)
        · exact first e he

/-- Values under string keys. -/
structure Keyed (α : Type) where
  /-- The entries in the order of their keys. -/
  entries : List (String × α)
  /-- The keys ascend. -/
  ascending : Ascending entries
  deriving DecidableEq

namespace Keyed

variable {α : Type}

/-- The map without entries. -/
def empty : Keyed α := ⟨[], List.Pairwise.nil⟩

instance : Inhabited (Keyed α) := ⟨empty⟩

/-- Whether there are no entries. -/
def isEmpty (m : Keyed α) : Bool := m.entries.isEmpty

theorem isEmpty_iff {m : Keyed α} : m.isEmpty = true ↔ m = empty := by
  constructor
  · intro h
    obtain ⟨entries, ascending⟩ := m
    cases List.isEmpty_iff.1 h
    rfl
  · rintro rfl
    rfl

/-- The map with `key` set to `value`, whatever it was before. -/
def insert (m : Keyed α) (key : String) (value : α) : Keyed α :=
  ⟨insertEntry key value m.entries, ascending_insertEntry m.ascending⟩

/-- The value under a key. -/
def get? (m : Keyed α) (key : String) : Option α := m.entries.lookup key

/-- No key occurs twice. -/
theorem nodup_keys (m : Keyed α) : (m.entries.map Prod.fst).Nodup := by
  rw [List.nodup_iff_pairwise_ne, List.pairwise_map]
  refine m.ascending.imp fun {a b} hlt heq => ?_
  rw [heq] at hlt
  exact String.lt_irrefl _ hlt

/-- There is a value under the keys that occur. -/
theorem isSome_lookup_iff {entries : List (String × α)} {key : String} :
    (entries.lookup key).isSome ↔ key ∈ entries.map Prod.fst := by
  rw [List.lookup_isSome_iff, List.mem_map]
  refine exists_congr fun e => and_congr Iff.rfl ?_
  rw [beq_iff_eq]
  exact eq_comm

/-- The value under a key after an insertion into some entries. -/
theorem lookup_insertEntry (key key' : String) (value : α) (entries : List (String × α)) :
    (insertEntry key value entries).lookup key' =
      if key' = key then some value else entries.lookup key' := by
  by_cases h : key' = key
  · subst h
    induction entries with
    | nil => simp [insertEntry]
    | cons head rest ih =>
      obtain ⟨k, v⟩ := head
      simp only [insertEntry]
      split
      · simp
      · split
        · simp
        · next ne => simpa [List.lookup_cons, beq_false_of_ne ne] using ih
  · have hne : (key' == key) = false := beq_false_of_ne h
    induction entries with
    | nil => simp [insertEntry, List.lookup_cons, hne, h]
    | cons head rest ih =>
      obtain ⟨k, v⟩ := head
      simp only [insertEntry]
      split
      · simp [List.lookup_cons, hne]
      · split
        · next eq => simp [List.lookup_cons, hne, ← eq]
        · simp only [List.lookup_cons, ih, if_neg h]

/-- The value under a key after an insertion. -/
theorem get?_insert (m : Keyed α) (key key' : String) (value : α) :
    (m.insert key value).get? key' = if key' = key then some value else m.get? key' :=
  lookup_insertEntry key key' value m.entries

/-- The map `m` with some more entries; of several under one key the last counts. -/
def insertAll (m : Keyed α) (entries : List (String × α)) : Keyed α :=
  entries.foldl (fun m (key, value) => m.insert key value) m

/-- The map of some entries; of several under one key the last counts. -/
def ofList (entries : List (String × α)) : Keyed α := empty.insertAll entries

/-- The value under a key after some insertions is that of the last one under it. -/
theorem get?_insertAll (m : Keyed α) (entries : List (String × α)) (key : String) :
    (m.insertAll entries).get? key = (entries.reverse.lookup key).or (m.get? key) := by
  induction entries generalizing m with
  | nil => rfl
  | cons e entries ih =>
    obtain ⟨k, v⟩ := e
    have hstep : m.insertAll ((k, v) :: entries) = (m.insert k v).insertAll entries := rfl
    rw [hstep, ih, get?_insert, List.reverse_cons, List.lookup_append, Option.or_assoc]
    by_cases h : key = k
    · subst h
      rw [if_pos rfl, List.lookup_cons_self, Option.some_or]
    · rw [if_neg h, List.lookup_cons, beq_false_of_ne h, List.lookup_nil, Option.none_or]

/-- Nothing is under a key below all others. -/
theorem lookup_eq_none_of_lt {key : String} {entries : List (String × α)}
    (h : ∀ e ∈ entries, key < e.1) : entries.lookup key = none := by
  refine List.lookup_eq_none_iff.2 fun e he => bne_iff_ne.2 ?_
  rintro rfl
  exact String.lt_irrefl _ (h e he)

/-- The first keys of entries with the same values under every key do not differ. -/
theorem not_lt_of_lookup {k k' : String} {v v' : α} {rest rest' : List (String × α)}
    (hafter : Ascending ((k', v') :: rest'))
    (h : ∀ key, ((k, v) :: rest).lookup key = ((k', v') :: rest').lookup key) : ¬ k < k' := by
  intro hlt
  have hnone : ((k', v') :: rest').lookup k = none := by
    refine lookup_eq_none_of_lt fun e he => ?_
    rcases List.mem_cons.1 he with rfl | he
    · exact hlt
    · exact String.lt_trans hlt ((List.pairwise_cons.1 hafter).1 e he)
  have hfound := h k
  rw [hnone, List.lookup_cons_self] at hfound
  cases hfound

theorem eq_of_lookup {entries entries' : List (String × α)} (hleft : Ascending entries)
    (hright : Ascending entries') (h : ∀ key, entries.lookup key = entries'.lookup key) :
    entries = entries' := by
  induction entries generalizing entries' with
  | nil =>
    cases entries' with
    | nil => rfl
    | cons e _ =>
      obtain ⟨k, v⟩ := e
      simpa using h k
  | cons e rest ih =>
    obtain ⟨k, v⟩ := e
    cases entries' with
    | nil => simpa using h k
    | cons e' rest' =>
      obtain ⟨k', v'⟩ := e'
      have hle := String.not_lt.1 (not_lt_of_lookup hright h)
      obtain rfl : k = k' := by
        refine Decidable.byContradiction fun hne => ?_
        exact not_lt_of_lookup hleft (fun key => (h key).symm)
          (Std.lt_of_le_of_ne hle (Ne.symm hne))
      obtain rfl : v = v' := by simpa using h k
      obtain ⟨hfirst, hrest⟩ := List.pairwise_cons.1 hleft
      obtain ⟨hfirst', hrest'⟩ := List.pairwise_cons.1 hright
      rw [ih hrest hrest' fun key => ?_]
      by_cases hkey : key = k
      · -- the key of the first entry does not occur again
        subst hkey
        rw [lookup_eq_none_of_lt hfirst, lookup_eq_none_of_lt hfirst']
      · simpa [List.lookup_cons, beq_false_of_ne hkey] using h key

/-- Maps with the same value under every key are equal. -/
theorem ext_get? {m m' : Keyed α} (h : ∀ key, m.get? key = m'.get? key) : m = m' := by
  have hentries := eq_of_lookup m.ascending m'.ascending h
  cases m
  cases m'
  simpa using hentries

/-- A key above all others is inserted at the end. -/
theorem insertEntry_of_lt {key : String} {value : α} {entries : List (String × α)}
    (h : ∀ e ∈ entries, e.1 < key) : insertEntry key value entries = entries ++ [(key, value)] := by
  induction entries with
  | nil => rfl
  | cons e entries ih =>
    have hlt := h e List.mem_cons_self
    have hne : key ≠ e.1 := fun heq => String.lt_irrefl key (heq ▸ hlt)
    rw [insertEntry, if_neg (String.lt_asymm hlt), if_neg hne,
      ih fun e' he' => h e' (List.mem_cons_of_mem _ he'), List.cons_append]

/-- Entries that ascend are inserted one behind the other. -/
theorem entries_insertAll {m : Keyed α} {entries : List (String × α)}
    (h : Ascending (m.entries ++ entries)) :
    (m.insertAll entries).entries = m.entries ++ entries := by
  induction entries generalizing m with
  | nil => exact (List.append_nil _).symm
  | cons e entries ih =>
    have hfirst : (m.insert e.1 e.2).entries = m.entries ++ [e] :=
      insertEntry_of_lt fun e' he' => (List.pairwise_append.1 h).2.2 e' he' e List.mem_cons_self
    have hsplit : m.entries ++ e :: entries = (m.insert e.1 e.2).entries ++ entries := by
      rw [hfirst, List.append_assoc, List.singleton_append]
    rw [hsplit] at h ⊢
    exact ih h

/-- A map is the map of its entries. -/
theorem ofList_entries (m : Keyed α) : ofList m.entries = m := by
  obtain ⟨entries, ascending⟩ := m
  have hentries : (ofList entries).entries = entries := entries_insertAll (m := empty) ascending
  generalize ofList entries = m' at hentries
  cases m'
  simpa using hentries

end Keyed

end Courier
