import Courier.Proofs.Json.Record

/-!
# The members of a record

What is read of a record depends on its members alone, not on the procedure that gathers its fields:
a field is what stands under its name, and is missing if nothing does.  So whether a record is read
at all is a matter of which members there are, never of where they stand.

* `Json.named?` : the members of an object with their names as text.
* `Json.Value.Lists` : the members of a record in either form.
* `Json.Once` : no field occurs twice.
* `Json.Holds` : what a field holds that may be missing.
* `Json.fields?_record` : a record is read with the fields that it is written with.
* `Json.fields?_bind_eq_some_iff` : **a reader of fields is a reader of members.**
* `Json.SameFields` : objects with the same fields in any order, among any other members.
* `Json.SameFields.named` : the members that count in one of them count in the other.
-/

namespace Courier

namespace Json

/-- The members of an object with their names as text; none if a name is no text. -/
def named? : List (Raw × Value) → Option (List (String × Value))
  | [] => some []
  | (raw, v) :: rest =>
    match unquote? raw, named? rest with
    | some name, some members => some ((name, v) :: members)
    | _, _ => none

/-- The members of a record: those of an object, or the elements of an array under the names of the
fields in their order. -/
def Value.Lists (v : Value) (names : List String) (members : List (String × Value)) : Prop :=
  (∃ raw, v = .object raw ∧ named? raw = some members) ∨
    ∃ elements, v = .array elements ∧ elements.length ≤ names.length ∧
      members = names.zip elements

/-- No field occurs twice among some members. -/
def Once (names : List String) (members : List (String × Value)) : Prop :=
  ∀ name ∈ names, (members.map Prod.fst).count name ≤ 1

instance (names : List String) (members : List (String × Value)) :
    Decidable (Once names members) := inferInstanceAs (Decidable (∀ name ∈ names, _))

/-- What a field holds: what its member holds, or `fallback` if there is none. -/
def Holds {α : Type} (members : List (String × Value)) (name : String) (R : Value → α → Prop)
    (fallback a : α) : Prop :=
  (∃ v, (name, v) ∈ members ∧ R v a) ∨ (∀ v, (name, v) ∉ members) ∧ a = fallback

/-- Some fields are those among some members. -/
def Fields.Of (fields : Fields) (names : List String) (members : List (String × Value)) : Prop :=
  ∀ name ∈ names, ∀ v, fields.get? name = some v ↔ (name, v) ∈ members

variable {names : List String} {raw raw' : List (Raw × Value)} {fields : Fields}
  {members members' : List (String × Value)} {name : String} {v : Value}

/-! ### Reading the members -/

theorem named?_cons_eq_some_iff {r : Raw} : named? ((r, v) :: raw) = some members ↔
    ∃ name rest, unquote? r = some name ∧ named? raw = some rest ∧ members = (name, v) :: rest := by
  rw [named?]
  constructor
  · intro h
    split at h
    · next name rest hname hrest => exact ⟨name, rest, hname, hrest, (Option.some.inj h).symm⟩
    · cases h
  · rintro ⟨name, rest, hname, hrest, rfl⟩
    rw [hname, hrest]

theorem named?_append {after : List (Raw × Value)} : named? (raw ++ after) = some members ↔
    ∃ first last, named? raw = some first ∧ named? after = some last ∧ members = first ++ last := by
  induction raw generalizing members with
  | nil =>
    constructor
    · intro h
      exact ⟨[], members, rfl, h, rfl⟩
    · rintro ⟨first, last, hfirst, hlast, rfl⟩
      cases hfirst
      exact hlast
  | cons m raw ih =>
    obtain ⟨r, v⟩ := m
    simp only [List.cons_append, named?_cons_eq_some_iff, ih]
    constructor
    · rintro ⟨name, _, hname, ⟨first, last, hfirst, hlast, rfl⟩, rfl⟩
      exact ⟨_, last, ⟨name, first, hname, hfirst, rfl⟩, hlast, rfl⟩
    · rintro ⟨_, last, ⟨name, first, hname, hfirst, rfl⟩, hlast, rfl⟩
      exact ⟨name, _, hname, ⟨first, last, hfirst, hlast, rfl⟩, rfl⟩

/-- The members that are written are read. -/
theorem named?_quote (members : List (String × Value)) :
    named? (members.map fun m => (quote m.1, m.2)) = some members := by
  induction members with
  | nil => rfl
  | cons m members ih =>
    exact named?_cons_eq_some_iff.2 ⟨m.1, members, unquote?_quote m.1, ih, rfl⟩

theorem Value.lists_object_iff : (Value.object raw).Lists names members ↔
    named? raw = some members := by
  constructor
  · rintro (⟨raw', heq, h⟩ | ⟨elements, heq, -⟩)
    · cases heq
      exact h
    · cases heq
  · exact fun h => .inl ⟨raw, rfl, h⟩

/-- How often a field occurs among fields that have been read and members that have not. -/
def occurrences (before : Fields) (members : List (String × Value)) (name : String) : Nat :=
  (members.map Prod.fst).count name + if (before.get? name).isSome then 1 else 0

theorem occurrences_nil (before : Fields) (name : String) : occurrences before [] name ≤ 1 := by
  unfold occurrences
  split <;> simp

theorem occurrences_cons_self (before : Fields) (members : List (String × Value)) (name : String)
    (v : Value) : occurrences before ((name, v) :: members) name = occurrences before members name + 1 := by
  simp [occurrences]
  omega

theorem occurrences_cons_of_ne {name' : String} (h : name' ≠ name) (before : Fields) :
    occurrences before ((name', v) :: members) name = occurrences before members name := by
  simp [occurrences, List.count_cons_of_ne h]

/-- It does not matter whether a new member has been read yet. -/
theorem occurrences_read {before : Fields} (h : before.get? name = none) (name' : String) :
    occurrences ((name, v) :: before) members name' =
      occurrences before ((name, v) :: members) name' := by
  by_cases hname : name = name'
  · subst hname
    simp [occurrences, h]
  · simp [occurrences, List.count_cons_of_ne hname, Ne.symm hname]

/-- Reading members adds those with a name of a field, which must be new. -/
theorem foldlM_addMember?_eq_some_iff {before : Fields} :
    raw.foldlM (addMember? names) before = some fields ↔ ∃ members, named? raw = some members ∧
      (∀ name ∈ names, occurrences before members name ≤ 1) ∧
      fields = (members.filter fun m => decide (m.1 ∈ names)).reverse ++ before := by
  induction raw generalizing before with
  | nil =>
    simp only [List.foldlM_nil, Option.pure_def, Option.some.injEq, named?]
    constructor
    · rintro rfl
      exact ⟨[], rfl, fun name _ => occurrences_nil _ name, rfl⟩
    · rintro ⟨members, rfl, -, rfl⟩
      rfl
  | cons m raw ih =>
    obtain ⟨r, v⟩ := m
    rw [List.foldlM_cons, Option.bind_eq_bind]
    cases hname : unquote? r with
    | none =>
      have hnone : addMember? names before (r, v) = none := by simp only [addMember?, hname]
      rw [hnone]
      simp [named?, hname]
    | some name =>
      simp only [named?_cons_eq_some_iff, hname, Option.some.injEq]
      by_cases hmem : name ∈ names
      · cases hget : before.get? name with
        | some w =>
          have hnone : addMember? names before (r, v) = none := by
            simp only [addMember?, hname, if_pos hmem, hget, Option.isSome_some, if_true]
          rw [hnone]
          -- the field is there already, and would be there twice
          refine iff_of_false (by simp) ?_
          rintro ⟨_, ⟨_, rest, rfl, -, rfl⟩, honce, -⟩
          have htwice := honce name hmem
          have hthere : 1 ≤ occurrences before rest name := by simp [occurrences, hget]
          rw [occurrences_cons_self] at htwice
          omega
        | none =>
          have hstep : addMember? names before (r, v) = some ((name, v) :: before) := by
            simp only [addMember?, hname, if_pos hmem, hget, Option.isSome_none,
              if_neg Bool.false_ne_true]
          rw [hstep, Option.bind_some, ih]
          simp only [occurrences_read hget]
          constructor
          · rintro ⟨rest, hrest, honce, rfl⟩
            exact ⟨_, ⟨name, rest, rfl, hrest, rfl⟩, honce, by simp [hmem]⟩
          · rintro ⟨_, ⟨_, rest, rfl, hrest, rfl⟩, honce, rfl⟩
            exact ⟨rest, hrest, honce, by simp [hmem]⟩
      · have hstep : addMember? names before (r, v) = some before := by
          simp only [addMember?, hname, if_neg hmem]
        have hskip : ∀ rest, ∀ name' ∈ names,
            occurrences before ((name, v) :: rest) name' = occurrences before rest name' := by
          intro rest name' hname'
          refine occurrences_cons_of_ne ?_ before
          rintro rfl
          exact hmem hname'
        rw [hstep, Option.bind_some, ih]
        constructor
        · rintro ⟨rest, hrest, honce, rfl⟩
          refine ⟨_, ⟨name, rest, rfl, hrest, rfl⟩, fun name' hname' => ?_, by simp [hmem]⟩
          rw [hskip rest name' hname']
          exact honce name' hname'
        · rintro ⟨_, ⟨_, rest, rfl, hrest, rfl⟩, honce, rfl⟩
          refine ⟨rest, hrest, fun name' hname' => ?_, by simp [hmem]⟩
          rw [← hskip rest name' hname']
          exact honce name' hname'

/-- With no field twice, what stands under a name is what is found there. -/
theorem get?_eq_some_iff_of_nodup (h : (fields.map Prod.fst).Nodup) :
    fields.get? name = some v ↔ (name, v) ∈ fields := by
  induction fields with
  | nil => simp
  | cons m fields ih =>
    obtain ⟨name', v'⟩ := m
    obtain ⟨hfirst, hrest⟩ := List.nodup_cons.1 h
    rw [get?_cons, List.mem_cons]
    by_cases hname : name = name'
    · subst hname
      rw [if_pos rfl, Option.some.injEq, Prod.mk.injEq]
      constructor
      · rintro rfl
        exact .inl ⟨rfl, rfl⟩
      · rintro (⟨-, rfl⟩ | hmem)
        · rfl
        · exact absurd (List.mem_map_of_mem hmem) hfirst
    · rw [if_neg hname, ih hrest]
      simp [hname]

/-! ### The fields of a record -/

theorem Once.nodup (h : Once names members) :
    ((members.filter fun m => decide (m.1 ∈ names)).map Prod.fst).Nodup := by
  rw [List.nodup_iff_count]
  intro name
  by_cases hname : name ∈ names
  · exact Nat.le_trans ((List.filter_sublist.map Prod.fst).count_le name) (h name hname)
  · have hnone : name ∉ (members.filter fun m => decide (m.1 ∈ names)).map Prod.fst := by
      simp [hname]
    rw [List.count_eq_zero_of_not_mem hnone]
    exact Nat.zero_le 1

theorem keys_zip (names : List String) (elements : List Value) :
    ((names.zip elements).map Prod.fst).Sublist names := by
  induction names generalizing elements with
  | nil => exact List.nil_sublist _
  | cons name names ih =>
    cases elements with
    | nil => exact List.nil_sublist _
    | cons v elements => exact (ih elements).cons_cons name

/-- The elements of an array are different fields. -/
theorem once_zip (hnames : names.Nodup) (elements : List Value) :
    Once names (names.zip elements) := fun name _ =>
  Nat.le_trans ((keys_zip names elements).count_le name) (List.nodup_iff_count.1 hnames name)

/-- The fields that are read of a record are those among its members. -/
theorem exists_lists (hnames : names.Nodup) (h : fields? names v = some fields) :
    ∃ members, v.Lists names members ∧ Once names members ∧ fields.Of names members := by
  cases v with
  | object raw =>
    obtain ⟨members, hraw, honce, rfl⟩ := foldlM_addMember?_eq_some_iff.1 h
    have honce : Once names members := honce
    refine ⟨members, .inl ⟨raw, rfl, hraw⟩, honce, fun name hname v => ?_⟩
    rw [List.append_nil, get?_reverse honce.nodup, get?_eq_some_iff_of_nodup honce.nodup]
    simp [hname]
  | array elements =>
    rw [fields?, fieldsOfElements?] at h
    split at h
    · next hlength =>
      cases h
      refine ⟨_, .inr ⟨elements, rfl, hlength, rfl⟩, once_zip hnames elements, fun name _ v => ?_⟩
      exact get?_eq_some_iff_of_nodup (hnames.sublist (keys_zip names elements))
    · cases h
  | _ => cases h

/-- A record is read if no field occurs twice among its members. -/
theorem exists_fields (h : v.Lists names members) (honce : Once names members) :
    ∃ fields, fields? names v = some fields := by
  rcases h with ⟨raw, rfl, hraw⟩ | ⟨elements, rfl, hlength, -⟩
  · exact ⟨_, foldlM_addMember?_eq_some_iff.2 ⟨members, hraw, honce, rfl⟩⟩
  · exact ⟨_, if_pos hlength⟩

/-- **A record is read with the fields that it is written with**, those that were left out being
missing. -/
theorem fields?_record (hsub : (members.map Prod.fst).Sublist names) (hnames : names.Nodup) :
    ∃ fields, fields? names (.record members) = some fields ∧
      ∀ name, Fields.get? fields name = Fields.get? members name := by
  have honce : Once names members := fun name _ =>
    Nat.le_trans (hsub.count_le name) (List.nodup_iff_count.1 hnames name)
  have hkeep : (members.filter fun m => decide (m.1 ∈ names)) = members :=
    List.filter_eq_self.2 fun m hm => decide_eq_true (hsub.subset (List.mem_map_of_mem hm))
  have hread : fields? names (.record members) = some (members.reverse ++ []) :=
    foldlM_addMember?_eq_some_iff.2 ⟨members, named?_quote members, honce, by rw [hkeep]⟩
  rw [List.append_nil] at hread
  exact ⟨members.reverse, hread, get?_reverse (hnames.sublist hsub)⟩

theorem Value.Lists.unique (h : v.Lists names members) (h' : v.Lists names members') :
    members = members' := by
  rcases h with ⟨raw, rfl, hraw⟩ | ⟨elements, rfl, -, rfl⟩
  · exact Option.some.inj (hraw.symm.trans (lists_object_iff.1 h'))
  · rcases h' with ⟨_, heq, -⟩ | ⟨_, heq, -, rfl⟩
    · cases heq
    · cases heq
      rfl

/-- The members of an array are its elements under the names of the fields. -/
theorem exists_lists_array_iff {elements : List Value} {P : List (String × Value) → Prop}
    (hnames : names.Nodup) :
    (∃ members, (Value.array elements).Lists names members ∧ Once names members ∧ P members) ↔
      elements.length ≤ names.length ∧ P (names.zip elements) := by
  constructor
  · rintro ⟨members, ⟨raw, heq, -⟩ | ⟨elements', heq, hlength, rfl⟩, -, hP⟩
    · cases heq
    · cases heq
      exact ⟨hlength, hP⟩
  · rintro ⟨hlength, hP⟩
    exact ⟨_, .inr ⟨elements, rfl, hlength, rfl⟩, once_zip hnames elements, hP⟩

/-- **A reader of fields is a reader of members**: a record is read as something exactly if no field
occurs twice among its members and these say so. -/
theorem fields?_bind_eq_some_iff {α : Type} {f : Fields → Option α} {a : α}
    {P : List (String × Value) → Prop} (hnames : names.Nodup)
    (hf : ∀ fields members, fields.Of names members → (f fields = some a ↔ P members)) :
    (fields? names v).bind f = some a ↔
      ∃ members, v.Lists names members ∧ Once names members ∧ P members := by
  rw [Option.bind_eq_some_iff]
  constructor
  · rintro ⟨fields, hfields, ha⟩
    obtain ⟨members, hlists, honce, hof⟩ := exists_lists hnames hfields
    exact ⟨members, hlists, honce, (hf fields members hof).1 ha⟩
  · rintro ⟨members, hlists, honce, hP⟩
    obtain ⟨fields, hfields⟩ := exists_fields hlists honce
    obtain ⟨members', hlists', -, hof⟩ := exists_lists hnames hfields
    obtain rfl := hlists.unique hlists'
    exact ⟨fields, hfields, (hf fields members hof).2 hP⟩

/-! ### Single fields -/

section

variable {α : Type} {read : Value → Option α} {R : Value → α → Prop} {fallback a : α}

theorem required?_eq_some_iff (hof : fields.Of names members) (hname : name ∈ names)
    (hread : ∀ v a, read v = some a ↔ R v a) :
    fields.required? name read = some a ↔ ∃ v, (name, v) ∈ members ∧ R v a := by
  rw [Fields.required?, Option.bind_eq_some_iff]
  exact exists_congr fun v => and_congr (hof name hname v) (hread v a)

theorem optional?_eq_some_iff (hof : fields.Of names members) (hname : name ∈ names)
    (hread : ∀ v a, read v = some a ↔ R v a) :
    fields.optional? name read fallback = some a ↔ Holds members name R fallback a := by
  have hmem := hof name hname
  unfold Fields.optional? Holds
  cases hget : fields.get? name with
  | none =>
    have hmissing : ∀ v, (name, v) ∉ members := fun v hv => by
      rw [(hmem v).2 hv] at hget
      cases hget
    constructor
    · intro h
      exact .inr ⟨hmissing, (Option.some.inj h).symm⟩
    · rintro (⟨v, hv, -⟩ | ⟨-, rfl⟩)
      · exact absurd hv (hmissing v)
      · rfl
  | some v =>
    have hv := (hmem v).1 hget
    constructor
    · exact fun h => .inl ⟨v, hv, (hread v a).1 h⟩
    · rintro (⟨v', hv', hR⟩ | ⟨hmissing, -⟩)
      · -- there is only one member with the name
        obtain rfl := Option.some.inj (hget.symm.trans ((hmem v').2 hv'))
        exact (hread v a).2 hR
      · exact absurd hv (hmissing v)

/-- There is only one member with the name of a field. -/
theorem Once.eq {v' : Value} (honce : Once names members) (hname : name ∈ names)
    (hv : (name, v) ∈ members) (hv' : (name, v') ∈ members) : v = v' := by
  have hfound : ∀ w, (name, w) ∈ members →
      Fields.get? (members.filter fun m => decide (m.1 ∈ names)) name = some w := by
    intro w hw
    exact (get?_eq_some_iff_of_nodup honce.nodup).2 (List.mem_filter.2 ⟨hw, by simpa using hname⟩)
  exact Option.some.inj ((hfound v hv).symm.trans (hfound v' hv'))

/-- A field that may be missing holds something, if all that stands under its name can be read. -/
theorem exists_holds_iff (honce : Once names members) (hname : name ∈ names) :
    (∃ a, Holds members name R fallback a) ↔ ∀ v, (name, v) ∈ members → ∃ a, R v a := by
  constructor
  · rintro ⟨a, ⟨v, hv, hR⟩ | ⟨hmissing, -⟩⟩ v' hv'
    · obtain rfl := honce.eq hname hv hv'
      exact ⟨a, hR⟩
    · exact absurd hv' (hmissing v')
  · intro h
    by_cases hv : ∃ v, (name, v) ∈ members
    · obtain ⟨v, hv⟩ := hv
      obtain ⟨a, hR⟩ := h v hv
      exact ⟨a, .inl ⟨v, hv, hR⟩⟩
    · exact ⟨fallback, .inr ⟨not_exists.1 hv, rfl⟩⟩

end

/-! ### The same fields in another object -/

/-- Whether a member of an object matters for a record: it has the name of a field, or a name that
is no text. -/
def matters (names : List String) (member : Raw × Value) : Bool :=
  (unquote? member.1).all fun name => decide (name ∈ names)

/-- Objects with the same fields, in any order and among any other members. -/
def SameFields (names : List String) (raw raw' : List (Raw × Value)) : Prop :=
  (raw.filter (matters names)).Perm (raw'.filter (matters names))

/-- Members with the same values under the names of the fields. -/
def Agree (names : List String) (members members' : List (String × Value)) : Prop :=
  ∀ name ∈ names, ∀ v, (name, v) ∈ members ↔ (name, v) ∈ members'

theorem SameFields.symm (h : SameFields names raw raw') : SameFields names raw' raw :=
  List.Perm.symm h

/-- A field holds the same among members with the same values. -/
theorem Agree.holds {α : Type} {R : Value → α → Prop} {fallback a : α}
    (h : Agree names members members') (hname : name ∈ names)
    (ha : Holds members name R fallback a) : Holds members' name R fallback a := by
  rcases ha with ⟨v, hv, hR⟩ | ⟨hmissing, rfl⟩
  · exact .inl ⟨v, (h name hname v).1 hv, hR⟩
  · exact .inr ⟨fun v hv => hmissing v ((h name hname v).2 hv), rfl⟩

/-- Objects with the same members in any order have the same fields. -/
theorem SameFields.of_perm (h : raw.Perm raw') : SameFields names raw raw' := h.filter _

/-- An object with one more member that has the name of no field has the same fields. -/
theorem SameFields.of_unknown {before after : List (Raw × Value)} {r : Raw}
    (hname : unquote? r = some name) (hunknown : name ∉ names) (v : Value) :
    SameFields names (before ++ (r, v) :: after) (before ++ after) := by
  have hskip : matters names (r, v) = false := by simp [matters, hname, hunknown]
  simp [SameFields, List.filter_append, hskip]

theorem named?_perm (h : raw.Perm raw') (hraw : named? raw = some members) :
    ∃ members', named? raw' = some members' ∧ members.Perm members' := by
  induction h generalizing members with
  | nil => exact ⟨members, hraw, .refl _⟩
  | cons m _ ih =>
    obtain ⟨name, rest, hname, hrest, rfl⟩ := named?_cons_eq_some_iff.1 hraw
    obtain ⟨rest', hrest', hperm⟩ := ih hrest
    exact ⟨_, named?_cons_eq_some_iff.2 ⟨name, rest', hname, hrest', rfl⟩, hperm.cons _⟩
  | swap m m' l =>
    obtain ⟨name, rest, hname, hrest, rfl⟩ := named?_cons_eq_some_iff.1 hraw
    obtain ⟨name', rest', hname', hrest', rfl⟩ := named?_cons_eq_some_iff.1 hrest
    have hinner : named? (m' :: l) = some ((name, m'.2) :: rest') :=
      named?_cons_eq_some_iff.2 ⟨name, rest', hname, hrest', rfl⟩
    exact ⟨_, named?_cons_eq_some_iff.2 ⟨name', _, hname', hinner, rfl⟩, .swap _ _ _⟩
  | trans _ _ ih ih' =>
    obtain ⟨members', hraw', hperm⟩ := ih hraw
    obtain ⟨members'', hraw'', hperm'⟩ := ih' hraw'
    exact ⟨members'', hraw'', hperm.trans hperm'⟩

/-- Only the members that matter decide whether all names are text, and those that are fields stay
the same without the others. -/
theorem named?_filter_eq_some_iff : named? (raw.filter (matters names)) = some members ↔
    ∃ all, named? raw = some all ∧ members = all.filter fun m => decide (m.1 ∈ names) := by
  induction raw generalizing members with
  | nil =>
    constructor
    · intro h
      exact ⟨[], rfl, (Option.some.inj h).symm⟩
    · rintro ⟨all, hall, rfl⟩
      cases hall
      rfl
  | cons m raw ih =>
    obtain ⟨r, v⟩ := m
    simp only [named?_cons_eq_some_iff]
    cases hname : unquote? r with
    | none =>
      have hkeep : matters names (r, v) = true := by simp [matters, hname]
      rw [List.filter_cons_of_pos hkeep, named?_cons_eq_some_iff]
      simp [hname]
    | some name =>
      by_cases hmem : name ∈ names
      · have hkeep : matters names (r, v) = true := by simp [matters, hname, hmem]
        rw [List.filter_cons_of_pos hkeep, named?_cons_eq_some_iff]
        simp only [hname, Option.some.injEq, ih]
        constructor
        · rintro ⟨_, _, rfl, ⟨all, hall, rfl⟩, rfl⟩
          exact ⟨_, ⟨_, all, rfl, hall, rfl⟩, by simp [hmem]⟩
        · rintro ⟨_, ⟨_, all, rfl, hall, rfl⟩, rfl⟩
          exact ⟨_, _, rfl, ⟨all, hall, rfl⟩, by simp [hmem]⟩
      · have hskip : matters names (r, v) = false := by simp [matters, hname, hmem]
        rw [List.filter_cons_of_neg (by simp [hskip]), ih]
        simp only [Option.some.injEq]
        constructor
        · rintro ⟨all, hall, rfl⟩
          exact ⟨_, ⟨name, all, rfl, hall, rfl⟩, by simp [hmem]⟩
        · rintro ⟨_, ⟨_, all, rfl, hall, rfl⟩, rfl⟩
          exact ⟨all, hall, by simp [hmem]⟩

theorem count_filter {names : List String} (hname : name ∈ names)
    (members : List (String × Value)) :
    ((members.filter fun m => decide (m.1 ∈ names)).map Prod.fst).count name =
      (members.map Prod.fst).count name := by
  rw [List.count_eq_countP, List.count_eq_countP, List.countP_map, List.countP_map,
    List.countP_filter]
  refine List.countP_congr fun m _ => ?_
  simp only [Function.comp_apply, Bool.and_eq_true, beq_iff_eq, decide_eq_true_eq]
  constructor
  · exact And.left
  · rintro rfl
    exact ⟨rfl, hname⟩

/-- **The members that matter in one object matter in another one with the same fields.** -/
theorem SameFields.named (h : SameFields names raw raw') (hraw : named? raw = some members)
    (honce : Once names members) :
    ∃ members', named? raw' = some members' ∧ Once names members' ∧
      Agree names members members' := by
  have hfields : named? (raw.filter (matters names)) =
      some (members.filter fun m => decide (m.1 ∈ names)) :=
    named?_filter_eq_some_iff.2 ⟨members, hraw, rfl⟩
  obtain ⟨fields, hfields, hperm⟩ := named?_perm h hfields
  obtain ⟨members', hraw', rfl⟩ := named?_filter_eq_some_iff.1 hfields
  refine ⟨members', hraw', fun name hname => ?_, fun name hname v => ?_⟩
  · rw [← count_filter hname members', ← (hperm.map Prod.fst).count_eq name,
      count_filter hname members]
    exact honce name hname
  · have hmem := hperm.mem_iff (a := (name, v))
    simpa [hname] using hmem

end Json

end Courier
