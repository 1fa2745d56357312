import Courier.Proofs.Notification.Metadata

/-!
# What is read as a notification

An object is read as a notification if its members say enough, each of them in its own form, and no
field is there twice; the notification then is what they say.  This depends on which members there
are, not on their order, and not on members that are no fields.

* `Variables.ofJson?_eq_some_iff`, `Notification.ofJson?_eq_some_iff` : a record is read as what its
  members say.
* `Notification.Acceptable` : what is asked of the members, field by field.
* `Notification.exists_taken_iff` : members say enough exactly if they are acceptable, and the
  priority is no zero with a minus sign.
* `Notification.decode?_object` : **which objects are read as a notification, and as which.**
* `Notification.decode?_signedZero` : but a priority that is a zero with a minus sign is refused.
-/

namespace Courier

open Json

/-! ### Values -/

namespace Json

/-- The text that a value is. -/
def Value.Spells (v : Value) (s : String) : Prop := v.text? = some s

/-- The medium that a value names: by its name, or as the one member of an object, which is null. -/
def Value.NamesMedium (v : Value) (k : Medium) : Prop :=
  v.Spells k.name ∨ ∃ raw, v = .object [(raw, .null)] ∧ unquote? raw = some k.name

/-- The user id that a value spells. -/
def Value.IsUserId (v : Value) (u : UserId) : Prop := ∃ s, v.Spells s ∧ UserId.parse? s = some u

/-- The priority that a value is: an integer by its digits, other than a zero with a minus sign. -/
def Value.IsPriority (v : Value) (p : Int32) : Prop :=
  ∃ l, v = .number l ∧ l.int? = some p.toInt ∧ l.isMinusZero = false

/-- What a value is that may be null. -/
def Nullable {α : Type} (R : Value → α → Prop) (v : Value) : Option α → Prop
  | none => v = .null
  | some a => R v a

theorem exists_nullable_iff {α : Type} {R : Value → α → Prop} {v : Value} :
    (∃ o, Nullable R v o) ↔ v = .null ∨ ∃ a, R v a := by
  constructor
  · rintro ⟨_ | a, h⟩
    · exact .inl h
    · exact .inr ⟨a, h⟩
  · rintro (h | ⟨a, h⟩)
    · exact ⟨none, h⟩
    · exact ⟨some a, h⟩

theorem nullable?_eq_some_iff {α : Type} {read : Value → Option α} {R : Value → α → Prop}
    (hread : ∀ v a, read v = some a ↔ R v a) (hnull : read .null = none) (v : Value)
    (o : Option α) : nullable? read v = some o ↔ Nullable R v o := by
  cases v with
  | null =>
    cases o with
    | none => exact iff_of_true rfl rfl
    | some a =>
      have hnot : ¬ R .null a := by
        intro hR
        rw [(hread .null a).2 hR] at hnull
        cases hnull
      exact iff_of_false nofun hnot
  | _ =>
    cases o with
    | none => simp [nullable?, Nullable]
    | some a => simp [nullable?, Nullable, hread]

end Json

theorem Medium.ofName?_eq_some_iff {name : String} {k : Medium} :
    Medium.ofName? name = some k ↔ name = k.name := by
  unfold Medium.ofName?
  constructor
  · intro h
    split at h
    · next hname =>
      cases h
      exact hname
    · split at h
      · next hname =>
        cases h
        exact hname
      · cases h
  · rintro rfl
    cases k <;> rfl

theorem Medium.ofJson?_eq_some_iff (v : Value) (k : Medium) :
    Medium.ofJson? v = some k ↔ v.NamesMedium k := by
  constructor
  · intro h
    unfold Medium.ofJson? at h
    split at h
    · next raw =>
      obtain ⟨name, hname, hk⟩ := Option.bind_eq_some_iff.1 h
      obtain rfl := Medium.ofName?_eq_some_iff.1 hk
      exact .inl hname
    · next raw =>
      obtain ⟨name, hname, hk⟩ := Option.bind_eq_some_iff.1 h
      obtain rfl := Medium.ofName?_eq_some_iff.1 hk
      exact .inr ⟨raw, rfl, hname⟩
    · cases h
  · rintro (h | ⟨raw, rfl, hname⟩)
    · cases v with
      | string raw =>
        exact Option.bind_eq_some_iff.2 ⟨_, h, Medium.ofName?_eq_some_iff.2 rfl⟩
      | _ => cases h
    · exact Option.bind_eq_some_iff.2 ⟨_, hname, Medium.ofName?_eq_some_iff.2 rfl⟩

theorem UserId.ofJson?_eq_some_iff (v : Value) (u : UserId) :
    UserId.ofJson? v = some u ↔ v.IsUserId u := Option.bind_eq_some_iff

theorem priorityOfJson?_eq_some_iff (v : Value) (p : Int32) :
    priorityOfJson? v = some p ↔ v.IsPriority p := by
  constructor
  · intro h
    cases v with
    | number l =>
      simp only [priorityOfJson?] at h
      split at h
      · next n hn =>
        obtain ⟨hint, hzero⟩ := number?_eq_integer_iff.1 hn
        split at h
        · next hrange =>
          cases h
          refine ⟨l, rfl, ?_, hzero⟩
          rw [hint, Int32.toInt_ofInt_of_le (by omega) (by omega)]
        · cases h
      · cases h
    | _ => cases h
  · rintro ⟨l, rfl, hint, hzero⟩
    have hle := p.le_toInt
    have hlt := p.toInt_lt
    have hn : l.number? = some (.integer ⟨p.toInt, by omega, by omega⟩) :=
      number?_eq_integer_iff.2 ⟨hint, hzero⟩
    simp only [priorityOfJson?, hn]
    rw [if_pos ⟨hle, hlt⟩, Int32.ofInt_toInt]

/-- An integer literal within range is a priority, unless it is a zero with a minus sign. -/
theorem Json.Value.exists_isPriority_iff {l : Literal} (hzero : l.isMinusZero = false) :
    (∃ p, (Value.number l).IsPriority p) ↔
      ∃ z, l.int? = some z ∧ -2147483648 ≤ z ∧ z < 2147483648 := by
  constructor
  · rintro ⟨p, _, heq, hint, -⟩
    cases heq
    exact ⟨p.toInt, hint, p.le_toInt, p.toInt_lt⟩
  · rintro ⟨z, hint, hle, hlt⟩
    refine ⟨Int32.ofInt z, l, rfl, ?_, hzero⟩
    rw [hint, Int32.toInt_ofInt_of_le (by omega) (by omega)]

variable {members members' : List (String × Value)}

/-! ### Variables -/

namespace Variables

/-- The variables that some members say. -/
structure Taken (members : List (String × Value)) (a : Variables) : Prop where
  name : Holds members "name" Value.Spells "" a.name
  link : Holds members "link" Value.Spells "" a.link
  details : Holds members "meta" Metadata.Given .empty a.details

/-- The variables that a record gives. -/
def Given (v : Value) (a : Variables) : Prop :=
  ∃ members, v.Lists fieldNames members ∧ Once fieldNames members ∧ Taken members a

/-- What is asked of a value for variables: it is a record, in either form, with texts for `name`
and `link` and a map of scalars for `meta`, none of them twice, and all of them optional. -/
def Accepts (v : Value) : Prop :=
  ∃ members, v.Lists fieldNames members ∧ Once fieldNames members ∧
    (∀ w, ("name", w) ∈ members → ∃ s, w.Spells s) ∧
    (∀ w, ("link", w) ∈ members → ∃ s, w.Spells s) ∧
    ∀ w, ("meta", w) ∈ members → Metadata.Accepts w

/-- Variables are read of a record as what its members say. -/
theorem ofJson?_eq_some_iff (v : Value) (a : Variables) : ofJson? v = some a ↔ Given v a := by
  unfold ofJson?
  rw [Option.bind_eq_bind, fields?_bind_eq_some_iff (by decide)]
  · rfl
  · intro fields members hof
    have htext : ∀ v s, Value.text? v = some s ↔ v.Spells s := fun _ _ => Iff.rfl
    have hmap : ∀ v m, metadataOfJson? v = some m ↔ Metadata.Given v m :=
      fun _ _ => metadataOfJson?_eq_some_iff
    simp only [Option.bind_eq_bind, Option.bind_eq_some_iff, Option.pure_def, Option.some.injEq,
      optional?_eq_some_iff hof (by decide : "name" ∈ fieldNames) htext,
      optional?_eq_some_iff hof (by decide : "link" ∈ fieldNames) htext,
      optional?_eq_some_iff hof (by decide : "meta" ∈ fieldNames) hmap]
    constructor
    · rintro ⟨name, hname, link, hlink, details, hdetails, rfl⟩
      exact ⟨hname, hlink, hdetails⟩
    · intro h
      exact ⟨_, h.name, _, h.link, _, h.details, rfl⟩

/-- There are variables in a value exactly if it is acceptable. -/
theorem exists_given_iff : (∃ a, Given v a) ↔ Accepts v := by
  constructor
  · rintro ⟨a, members, hlists, honce, htaken⟩
    refine ⟨members, hlists, honce, ?_, ?_, fun w hw => Metadata.exists_given_iff.1 ?_⟩
    · exact (exists_holds_iff honce (by decide)).1 ⟨_, htaken.name⟩
    · exact (exists_holds_iff honce (by decide)).1 ⟨_, htaken.link⟩
    · exact (exists_holds_iff honce (by decide)).1 ⟨_, htaken.details⟩ w hw
  · rintro ⟨members, hlists, honce, hname, hlink, hmeta⟩
    obtain ⟨name, hname⟩ := (exists_holds_iff honce (by decide)).2 hname
    obtain ⟨link, hlink⟩ := (exists_holds_iff honce (by decide)).2 hlink
    obtain ⟨details, hdetails⟩ := (exists_holds_iff honce (by decide)).2 fun w hw =>
      Metadata.exists_given_iff.2 (hmeta w hw)
    exact ⟨⟨name, link, details⟩, members, hlists, honce, hname, hlink, hdetails⟩

/-- The variables of an object stay the same with its fields. -/
theorem given_of_sameFields {raw raw' : List (Raw × Value)} {a : Variables}
    (h : SameFields fieldNames raw raw') (ha : Given (.object raw) a) : Given (.object raw') a := by
  obtain ⟨members, hlists, honce, htaken⟩ := ha
  obtain ⟨members', hraw', honce', hagree⟩ := h.named (Value.lists_object_iff.1 hlists) honce
  exact ⟨members', Value.lists_object_iff.2 hraw', honce', hagree.holds (by decide) htaken.name,
    hagree.holds (by decide) htaken.link, hagree.holds (by decide) htaken.details⟩

end Variables

/-! ### Notifications -/

namespace Notification

/-- The notification that some members say. -/
structure Taken (members : List (String × Value)) (n : Notification) : Prop where
  medium : ∃ v, ("notification_type", v) ∈ members ∧ v.NamesMedium n.medium
  token : Holds members "token" (Nullable Value.Spells) none n.token
  userId : Holds members "user_id" (Nullable Value.IsUserId) none n.userId
  templateCode : Holds members "template_code" Value.Spells "" n.templateCode
  values : Holds members "variables" Variables.Given .none n.values
  requestId : ∃ v, ("request_id", v) ∈ members ∧ v.Spells n.requestId
  priority : Holds members "priority" Value.IsPriority 0 n.priority
  metadata : Holds members "metadata" Metadata.Given .empty n.metadata

/-- What is asked of the members of a notification: no field is there twice, the medium and the
request id are there, and whatever is there has its form. -/
structure Acceptable (members : List (String × Value)) : Prop where
  once : Once fieldNames members
  medium : ∃ v k, ("notification_type", v) ∈ members ∧ v.NamesMedium k
  token : ∀ v, ("token", v) ∈ members → v = .null ∨ ∃ s, v.Spells s
  userId : ∀ v, ("user_id", v) ∈ members → v = .null ∨ ∃ u, v.IsUserId u
  templateCode : ∀ v, ("template_code", v) ∈ members → ∃ s, v.Spells s
  values : ∀ v, ("variables", v) ∈ members → Variables.Accepts v
  requestId : ∃ v s, ("request_id", v) ∈ members ∧ v.Spells s
  priority : ∀ v, ("priority", v) ∈ members →
    ∃ l z, v = .number l ∧ l.int? = some z ∧ -2147483648 ≤ z ∧ z < 2147483648
  metadata : ∀ v, ("metadata", v) ∈ members → Metadata.Accepts v

/-- The notification that a record gives. -/
def Given (v : Value) (n : Notification) : Prop :=
  ∃ members, v.Lists fieldNames members ∧ Once fieldNames members ∧ Taken members n

/-- A notification is read of a record as what its members say. -/
theorem ofJson?_eq_some_iff (v : Value) (n : Notification) : ofJson? v = some n ↔ Given v n := by
  unfold ofJson?
  rw [Option.bind_eq_bind, fields?_bind_eq_some_iff (by decide)]
  · rfl
  · intro fields members hof
    have htext : ∀ v s, Value.text? v = some s ↔ v.Spells s := fun _ _ => Iff.rfl
    have hmap : ∀ v m, metadataOfJson? v = some m ↔ Metadata.Given v m :=
      fun _ _ => metadataOfJson?_eq_some_iff
    simp only [Option.bind_eq_bind, Option.bind_eq_some_iff, Option.pure_def, Option.some.injEq,
      required?_eq_some_iff hof (by decide : "notification_type" ∈ fieldNames)
        Medium.ofJson?_eq_some_iff,
      optional?_eq_some_iff hof (by decide : "token" ∈ fieldNames)
        (nullable?_eq_some_iff htext rfl),
      optional?_eq_some_iff hof (by decide : "user_id" ∈ fieldNames)
        (nullable?_eq_some_iff UserId.ofJson?_eq_some_iff rfl),
      optional?_eq_some_iff hof (by decide : "template_code" ∈ fieldNames) htext,
      optional?_eq_some_iff hof (by decide : "variables" ∈ fieldNames)
        Variables.ofJson?_eq_some_iff,
      required?_eq_some_iff hof (by decide : "request_id" ∈ fieldNames) htext,
      optional?_eq_some_iff hof (by decide : "priority" ∈ fieldNames)
        priorityOfJson?_eq_some_iff,
      optional?_eq_some_iff hof (by decide : "metadata" ∈ fieldNames) hmap]
    constructor
    · rintro ⟨_, hmedium, _, htoken, _, huser, _, htemplate, _, hvalues, _, hrequest, _, hpriority,
        _, hmetadata, rfl⟩
      exact ⟨hmedium, htoken, huser, htemplate, hvalues, hrequest, hpriority, hmetadata⟩
    · intro h
      exact ⟨_, h.medium, _, h.token, _, h.userId, _, h.templateCode, _, h.values, _, h.requestId,
        _, h.priority, _, h.metadata, rfl⟩

theorem ofJson?_object_eq_some_iff {raw : List (Raw × Value)} {n : Notification} :
    ofJson? (.object raw) = some n ↔
      ∃ members, named? raw = some members ∧ Once fieldNames members ∧ Taken members n := by
  simp only [ofJson?_eq_some_iff, Given, Value.lists_object_iff]

/-- Members say enough exactly if they are acceptable, and the priority is no zero with a minus
sign. -/
theorem exists_taken_iff : (Once fieldNames members ∧ ∃ n, Taken members n) ↔
    Acceptable members ∧ ∀ l, ("priority", .number l) ∈ members → l.isMinusZero = false := by
  constructor
  · rintro ⟨honce, n, h⟩
    have hpriority := (exists_holds_iff honce (by decide)).1 ⟨_, h.priority⟩
    refine ⟨⟨honce, ?_, ?_, ?_, ?_, ?_, ?_, ?_, ?_⟩, ?_⟩
    · obtain ⟨v, hv, hmedium⟩ := h.medium
      exact ⟨v, n.medium, hv, hmedium⟩
    · intro v hv
      exact exists_nullable_iff.1 ((exists_holds_iff honce (by decide)).1 ⟨_, h.token⟩ v hv)
    · intro v hv
      exact exists_nullable_iff.1 ((exists_holds_iff honce (by decide)).1 ⟨_, h.userId⟩ v hv)
    · exact (exists_holds_iff honce (by decide)).1 ⟨_, h.templateCode⟩
    · intro v hv
      exact Variables.exists_given_iff.1 ((exists_holds_iff honce (by decide)).1 ⟨_, h.values⟩ v hv)
    · obtain ⟨v, hv, hrequest⟩ := h.requestId
      exact ⟨v, n.requestId, hv, hrequest⟩
    · intro v hv
      obtain ⟨p, l, rfl, hint, -⟩ := hpriority v hv
      exact ⟨l, p.toInt, rfl, hint, p.le_toInt, p.toInt_lt⟩
    · intro v hv
      exact Metadata.exists_given_iff.1
        ((exists_holds_iff honce (by decide)).1 ⟨_, h.metadata⟩ v hv)
    · intro l hl
      obtain ⟨p, _, heq, -, hzero⟩ := hpriority _ hl
      cases heq
      exact hzero
  · rintro ⟨h, hzero⟩
    have hpriority : ∀ v, ("priority", v) ∈ members → ∃ p, v.IsPriority p := by
      intro v hv
      obtain ⟨l, z, rfl, hint, hle, hlt⟩ := h.priority v hv
      exact (Value.exists_isPriority_iff (hzero l hv)).2 ⟨z, hint, hle, hlt⟩
    obtain ⟨v, medium, hv, hmedium⟩ := h.medium
    obtain ⟨token, htoken⟩ := (exists_holds_iff h.once (by decide)).2 fun v hv =>
      exists_nullable_iff.2 (h.token v hv)
    obtain ⟨userId, huser⟩ := (exists_holds_iff h.once (by decide)).2 fun v hv =>
      exists_nullable_iff.2 (h.userId v hv)
    obtain ⟨templateCode, htemplate⟩ :=
      (exists_holds_iff h.once (by decide)).2 h.templateCode
    obtain ⟨values, hvalues⟩ := (exists_holds_iff h.once (by decide)).2 fun v hv =>
      Variables.exists_given_iff.2 (h.values v hv)
    obtain ⟨w, requestId, hw, hrequest⟩ := h.requestId
    obtain ⟨priority, hpriority⟩ := (exists_holds_iff h.once (by decide)).2 hpriority
    obtain ⟨metadata, hmetadata⟩ := (exists_holds_iff h.once (by decide)).2 fun v hv =>
      Metadata.exists_given_iff.2 (h.metadata v hv)
    exact ⟨h.once, ⟨medium, token, userId, templateCode, values, requestId, priority, metadata⟩,
      ⟨v, hv, hmedium⟩, htoken, huser, htemplate, hvalues, ⟨w, hw, hrequest⟩, hpriority, hmetadata⟩

/-! ### Objects that say the same -/

/-- Objects that differ in the order of their members, in members that are no fields, and in the
same way within an object for `variables`. -/
inductive Alike : List (Raw × Value) → List (Raw × Value) → Prop
  | perm {raw raw' : List (Raw × Value)} : raw.Perm raw' → Alike raw raw'
  | unknown (before after : List (Raw × Value)) {r : Raw} {name : String} (v : Value) :
      unquote? r = some name → name ∉ fieldNames →
        Alike (before ++ (r, v) :: after) (before ++ after)
  | within (before after : List (Raw × Value)) {r : Raw} {inner inner' : List (Raw × Value)} :
      unquote? r = some "variables" → SameFields Variables.fieldNames inner inner' →
        Alike (before ++ (r, .object inner) :: after) (before ++ (r, .object inner') :: after)
  | symm {raw raw' : List (Raw × Value)} : Alike raw raw' → Alike raw' raw
  | trans {raw raw' raw'' : List (Raw × Value)} : Alike raw raw' → Alike raw' raw'' →
      Alike raw raw''

variable {n : Notification} {raw raw' : List (Raw × Value)}

theorem Taken.of_agree (hagree : Agree (fieldNames.erase "variables") members members')
    (hvalues : Holds members' "variables" Variables.Given .none n.values)
    (h : Taken members n) : Taken members' n := by
  obtain ⟨v, hv, hmedium⟩ := h.medium
  obtain ⟨w, hw, hrequest⟩ := h.requestId
  exact {
    medium := ⟨v, (hagree _ (by decide) v).1 hv, hmedium⟩
    token := hagree.holds (by decide) h.token
    userId := hagree.holds (by decide) h.userId
    templateCode := hagree.holds (by decide) h.templateCode
    values := hvalues
    requestId := ⟨w, (hagree _ (by decide) w).1 hw, hrequest⟩
    priority := hagree.holds (by decide) h.priority
    metadata := hagree.holds (by decide) h.metadata }

theorem ofJson?_of_sameFields (h : SameFields fieldNames raw raw')
    (hn : ofJson? (.object raw) = some n) : ofJson? (.object raw') = some n := by
  obtain ⟨members, hraw, honce, htaken⟩ := ofJson?_object_eq_some_iff.1 hn
  obtain ⟨members', hraw', honce', hagree⟩ := h.named hraw honce
  refine ofJson?_object_eq_some_iff.2 ⟨members', hraw', honce', htaken.of_agree ?_ ?_⟩
  · exact fun name hname => hagree name (List.mem_of_mem_erase hname)
  · exact hagree.holds (by decide) htaken.values

/-- The same variables in another object make no difference. -/
theorem ofJson?_of_variables {before after : List (Raw × Value)} {r : Raw} {v v' : Value}
    (hname : unquote? r = some "variables") (hgiven : ∀ a, Variables.Given v a → Variables.Given v' a)
    (hn : ofJson? (.object (before ++ (r, v) :: after)) = some n) :
    ofJson? (.object (before ++ (r, v') :: after)) = some n := by
  obtain ⟨members, hraw, honce, htaken⟩ := ofJson?_object_eq_some_iff.1 hn
  obtain ⟨first, rest, hfirst, hrest, rfl⟩ := named?_append.1 hraw
  obtain ⟨name, last, hname', hlast, rfl⟩ := named?_cons_eq_some_iff.1 hrest
  obtain rfl := Option.some.inj (hname.symm.trans hname')
  have hraw' : named? (before ++ (r, v') :: after) = some (first ++ ("variables", v') :: last) :=
    named?_append.2 ⟨first, _, hfirst,
      named?_cons_eq_some_iff.2 ⟨_, last, hname, hlast, rfl⟩, rfl⟩
  refine ofJson?_object_eq_some_iff.2 ⟨_, hraw', ?_, htaken.of_agree (fun name hne w => ?_) ?_⟩
  · intro name hname
    simpa using honce name hname
  · have hne : name ≠ "variables" := by
      rintro rfl
      exact absurd hne (by decide)
    simp [hne]
  · have hv : ("variables", v) ∈ first ++ ("variables", v) :: last := by simp
    rcases htaken.values with ⟨w, hw, hR⟩ | ⟨hmissing, -⟩
    · obtain rfl := honce.eq (by decide) hw hv
      exact .inl ⟨v', by simp, hgiven _ hR⟩
    · exact absurd hv (hmissing v)

/-- Objects that say the same are read alike. -/
theorem Alike.ofJson?_eq (h : Alike raw raw') : ofJson? (.object raw') = ofJson? (.object raw) := by
  have hfields : ∀ {raw raw'}, SameFields fieldNames raw raw' →
      ofJson? (.object raw') = ofJson? (.object raw) := by
    intro raw raw' h
    exact Option.ext fun n => ⟨ofJson?_of_sameFields h.symm, ofJson?_of_sameFields h⟩
  induction h with
  | perm h => exact hfields (.of_perm h)
  | unknown before after v hname hunknown => exact hfields (.of_unknown hname hunknown v)
  | within before after hname h =>
    refine Option.ext fun n => ⟨?_, ?_⟩
    · exact ofJson?_of_variables hname fun a => Variables.given_of_sameFields h.symm
    · exact ofJson?_of_variables hname fun a => Variables.given_of_sameFields h
  | symm _ ih => exact ih.symm
  | trans _ _ ih ih' => exact ih'.trans ih

/-! ### Messages -/

/-- **Which objects are read as a notification, and as which.**  Their members have to be
acceptable, and the priority no zero with a minus sign; then the notification is what they say, and
other objects that say the same are read as the same. -/
theorem decode?_object {bytes : Bytes} (h : read? bytes = some (.object raw)) :
    ((∃ n, decode? bytes = some n) ↔ ∃ members, named? raw = some members ∧ Acceptable members ∧
      ∀ l, ("priority", .number l) ∈ members → l.isMinusZero = false) ∧
    (∀ n, decode? bytes = some n → ∃ members, named? raw = some members ∧ Taken members n) ∧
    ∀ bytes' raw', read? bytes' = some (.object raw') → Alike raw raw' →
      decode? bytes' = decode? bytes := by
  have hdecode : decode? bytes = ofJson? (.object raw) := by
    rw [decode?, h, Option.bind_some]
  rw [hdecode]
  refine ⟨⟨?_, ?_⟩, ?_, ?_⟩
  · rintro ⟨n, hn⟩
    obtain ⟨members, hraw, honce, htaken⟩ := ofJson?_object_eq_some_iff.1 hn
    exact ⟨members, hraw, exists_taken_iff.1 ⟨honce, n, htaken⟩⟩
  · rintro ⟨members, hraw, haccept⟩
    obtain ⟨honce, n, htaken⟩ := exists_taken_iff.2 haccept
    exact ⟨n, ofJson?_object_eq_some_iff.2 ⟨members, hraw, honce, htaken⟩⟩
  · intro n hn
    obtain ⟨members, hraw, -, htaken⟩ := ofJson?_object_eq_some_iff.1 hn
    exact ⟨members, hraw, htaken⟩
  · intro bytes' raw' h' halike
    rw [decode?, h', Option.bind_some]
    exact halike.ofJson?_eq

/-- The members of an electronic mail, in their order. -/
def mail : List (String × Value) :=
  [("notification_type", .object [(quote "email", .null)]), ("request_id", .text "r1")]

/-- The same members in another order, and with one between them that is no field. -/
def scattered : List (String × Value) :=
  [("request_id", .text "r1"), ("x", .array []),
    ("notification_type", .object [(quote "email", .null)])]

theorem decode?_scattered :
    (∃ n, decode? (Value.record scattered).render = some n ∧ Taken scattered n) ∧
      decode? (Value.record mail).render = decode? (Value.record scattered).render := by
  have hformed : ∀ m ∈ scattered, m.2.WellFormed := by
    simp only [scattered, List.forall_mem_cons]
    exact ⟨enclosed_quote "r1", trivial, ⟨enclosed_quote "email", trivial, trivial⟩, nofun⟩
  have hformed' : ∀ m ∈ mail, m.2.WellFormed := by
    simp only [mail, List.forall_mem_cons]
    exact ⟨⟨enclosed_quote "email", trivial, trivial⟩, enclosed_quote "r1", nofun⟩
  obtain ⟨hread, htaken, halike⟩ := decode?_object (read?_record hformed)
  have haccept : Acceptable scattered := {
    once := by decide
    medium := ⟨.object [(quote "email", .null)], .email, by simp [scattered],
      .inr ⟨_, rfl, unquote?_quote "email"⟩⟩
    token := by simp [scattered]
    userId := by simp [scattered]
    templateCode := by simp [scattered]
    values := by simp [scattered]
    requestId := ⟨.text "r1", "r1", by simp [scattered], unquote?_quote _⟩
    priority := by simp [scattered]
    metadata := by simp [scattered] }
  obtain ⟨n, hn⟩ := hread.2 ⟨scattered, named?_quote scattered, haccept, by simp [scattered]⟩
  obtain ⟨members, hmembers, hn'⟩ := htaken n hn
  obtain rfl := Option.some.inj ((named?_quote scattered).symm.trans hmembers)
  refine ⟨⟨n, hn, hn'⟩, halike _ _ (read?_record hformed') ?_⟩
  exact .trans (.unknown [_] [_] _ (unquote?_quote "x") (by decide)) (.perm (.swap _ _ _))

/-- An object whose priority is a zero with a minus sign. -/
def signedZero : List (String × Value) :=
  [("notification_type", .text "push"), ("request_id", .text "r1"),
    ("priority", .number .minusZero)]

/-- A priority that is a zero with a minus sign is written as an integer within range, but no
notification is read with it. -/
theorem decode?_signedZero :
    (∃ raw, read? (Value.record signedZero).render = some (.object raw) ∧
      named? raw = some signedZero) ∧
    Acceptable signedZero ∧ decode? (Value.record signedZero).render = none := by
  have hformed : ∀ m ∈ signedZero, m.2.WellFormed := by
    simp only [signedZero, List.forall_mem_cons]
    exact ⟨enclosed_quote "push", enclosed_quote "r1", Literal.wellFormed_minusZero, nofun⟩
  have hread := read?_record hformed
  refine ⟨⟨_, hread, named?_quote signedZero⟩, ?_, ?_⟩
  · exact {
      once := by decide
      medium := ⟨.text "push", .push, by simp [signedZero], .inl (unquote?_quote _)⟩
      token := by simp [signedZero]
      userId := by simp [signedZero]
      templateCode := by simp [signedZero]
      values := by simp [signedZero]
      requestId := ⟨.text "r1", "r1", by simp [signedZero], unquote?_quote _⟩
      priority := by
        intro v hv
        obtain rfl : v = .number .minusZero := by simpa [signedZero] using hv
        exact ⟨_, 0, rfl, rfl, by decide, by decide⟩
      metadata := by simp [signedZero] }
  · rw [decode?, hread, Option.bind_some]
    decide +kernel

end Notification

end Courier
