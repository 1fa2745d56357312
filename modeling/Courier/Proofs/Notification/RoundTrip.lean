import Courier.Notification.Encoding
import Courier.Proofs.Json.Member
import Courier.Proofs.Json.Number
import Courier.Publishing.Basic

/-!
# Notifications there and back

The message of a notification is read as that notification, whatever its strings and maps hold and
whatever is left out of the text.  Only of the doubles among its scalars it has to be known that
each of them alone is read back.

* `UserId.parse?_render` : a user id is read as it is written.
* `metadataOfJson?_metadataToJson` : so is a map of scalars.
* `Notification.ofJson?_toJson` : so is a notification.
* `Publishing.decode?_messageOf` : **the body of a message is read as the notification that it was
  made of**, and an absent token or user id and empty maps do not stand in it.
-/

namespace Courier

open Json

/-! ### User ids -/

namespace UserId

/-- How many characters stand in the groups in front of the last. -/
def front : List Nat → Nat
  | [] => 0
  | n :: rest => n + front rest

theorem length_hyphenate {groups : List Nat} {cs : List Char} (h : front groups ≤ cs.length) :
    (hyphenate groups cs).length = cs.length + groups.length := by
  induction groups generalizing cs with
  | nil => rfl
  | cons n rest ih =>
    rw [front] at h
    have hfits : front rest ≤ (cs.drop n).length := by
      rw [List.length_drop]
      omega
    rw [hyphenate, List.length_append, List.length_cons, ih hfits, List.length_take,
      List.length_drop, List.length_cons]
    omega

theorem unhyphenate?_hyphenate {groups : List Nat} {cs : List Char}
    (h : front groups ≤ cs.length) : unhyphenate? groups (hyphenate groups cs) = some cs := by
  induction groups generalizing cs with
  | nil => rfl
  | cons n rest ih =>
    rw [front] at h
    have hfits : front rest ≤ (cs.drop n).length := by
      rw [List.length_drop]
      omega
    have htake : (cs.take n).length = n := List.length_take_of_le (by omega)
    rw [hyphenate, unhyphenate?, List.drop_left' htake, List.take_left' htake]
    simp only [ih hfits, Option.map_some, List.take_append_drop]

theorem mapM_digit?_lower (ds : List Nibble) :
    (ds.map Hex.lower).mapM Hex.digit? = some ds := by
  induction ds with
  | nil => rfl
  | cons d ds ih => simp [Hex.digit?_lower, ih]

/-- A user id is read as it is written. -/
theorem parse?_render (u : UserId) : parse? u.render = some u := by
  have hlength : (u.digits.map Hex.lower).length = 32 := by rw [List.length_map, u.length_eq]
  have hfits : front groups ≤ (u.digits.map Hex.lower).length := by rw [hlength]; decide
  have hchars : u.chars.length = 36 := by
    rw [chars, length_hyphenate hfits, hlength]
    rfl
  have hform : ofChars? u.chars = ofHyphenated? u.chars := by simp only [ofChars?, hchars]
  rw [parse?, render, String.toList_ofList, hform]
  simp only [ofHyphenated?, chars, unhyphenate?_hyphenate hfits, Option.bind_some, ofDigits?,
    mapM_digit?_lower, dif_pos u.length_eq]

end UserId

/-! ### Maps of scalars -/

/-- The double that a scalar is, if it is one. -/
def Scalar.double? : Scalar → Option Double
  | .number (.double x) => some x
  | _ => none

/-- The doubles of a map. -/
def Metadata.doubles (m : Metadata) : List Double := m.entries.filterMap fun e => e.2.double?

variable {s : Scalar} {m : Metadata}

theorem Scalar.ofJson?_toJson (h : ∀ x, s.double? = some x → x.ReadsBack) :
    Scalar.ofJson? s.toJson = some s ∧ s.toJson.WellFormed := by
  cases s with
  | bool b => exact ⟨rfl, trivial⟩
  | text s => exact ⟨by simp [toJson, ofJson?, Value.text], enclosed_quote s⟩
  | number n =>
    cases n with
    | integer n =>
      refine ⟨?_, wellFormed_ofInt n.val⟩
      simp only [toJson, ofJson?, Literal.ofNumber, number?_ofInt, Option.map_some]
    | double x =>
      obtain ⟨hformed, hnumber⟩ := (h x rfl).literal
      simp only [toJson, ofJson?, Double.ofNumber_double, hnumber, Option.map_some, true_and]
      exact hformed

theorem foldlM_addScalar? {entries : List (String × Scalar)}
    (h : ∀ e ∈ entries, Scalar.ofJson? e.2.toJson = some e.2) (m : Metadata) :
    (entries.map fun (key, value) => (quote key, value.toJson)).foldlM addScalar? m =
      some (m.insertAll entries) := by
  induction entries generalizing m with
  | nil => rfl
  | cons e entries ih =>
    have hadd : addScalar? m (quote e.1, e.2.toJson) = some (m.insert e.1 e.2) := by
      simp only [addScalar?, unquote?_quote, h e List.mem_cons_self]
    rw [List.map_cons, List.foldlM_cons, hadd, Option.bind_eq_bind, Option.bind_some,
      ih fun e' he' => h e' (List.mem_cons_of_mem _ he')]
    rfl

/-- A map of scalars is read as it is written. -/
theorem metadataOfJson?_metadataToJson (h : ∀ x ∈ m.doubles, x.ReadsBack) :
    metadataOfJson? (metadataToJson m) = some m ∧ (metadataToJson m).WellFormed := by
  have hscalar : ∀ e ∈ m.entries, Scalar.ofJson? e.2.toJson = some e.2 ∧ e.2.toJson.WellFormed :=
    fun e he => Scalar.ofJson?_toJson fun x hx => h x (List.mem_filterMap.2 ⟨e, he, hx⟩)
  constructor
  · rw [metadataToJson, metadataOfJson?, foldlM_addScalar? fun e he => (hscalar e he).1]
    exact congrArg some (Keyed.ofList_entries m)
  · have hrecord : metadataToJson m = .record (m.entries.map fun e => (e.1, e.2.toJson)) := by
      simp [metadataToJson, Value.record]
    rw [hrecord]
    refine Value.wellFormed_record _ fun member hmember => ?_
    obtain ⟨e, he, rfl⟩ := List.mem_map.1 hmember
    exact (hscalar e he).2

/-! ### Records of a notification -/

theorem Medium.ofJson?_name (k : Medium) : Medium.ofJson? (.text k.name) = some k := by
  have hname : Medium.ofName? k.name = some k := by cases k <;> rfl
  simp only [Value.text, Medium.ofJson?, unquote?_quote, Option.bind_some, hname]

section

variable {α : Type} {fields : Fields} {name name' : String}

theorem get?_toList (o : Option α) (write : α → Value) :
    Fields.get? (o.map fun a => (name', write a)).toList name =
      if name = name' then o.map write else none := by
  cases o with
  | none => simp
  | some a => simp

theorem get?_metadataMembers (m : Metadata) :
    Fields.get? (metadataMembers name' m) name =
      if name = name' ∧ m.isEmpty = false then some (metadataToJson m) else none := by
  unfold metadataMembers
  cases m.isEmpty with
  | true => simp
  | false => simp

theorem optional?_of_get? {read : Value → Option α} {fallback a : α} {v : Value}
    (h : fields.get? name = some v) (hread : read v = some a) :
    fields.optional? name read fallback = some a := by
  rw [Fields.optional?, h]
  exact hread

theorem optional?_nullable {read : Value → Option α} (write : α → Value) {o : Option α}
    (h : fields.get? name = o.map write) (hread : ∀ a, read (write a) = some a)
    (hnull : ∀ a, write a ≠ .null) : fields.optional? name (nullable? read) none = some o := by
  cases o with
  | none => rw [Fields.optional?, h]; rfl
  | some a =>
    refine optional?_of_get? h ?_
    have hsome := congrArg (Option.map some) (hread a)
    unfold nullable?
    -- a null would have been read as nothing
    split
    · next heq => exact absurd heq (hnull a)
    · exact hsome

theorem optional?_metadata {m : Metadata}
    (h : fields.get? name = if m.isEmpty = false then some (metadataToJson m) else none)
    (hread : metadataOfJson? (metadataToJson m) = some m) :
    fields.optional? name metadataOfJson? .empty = some m := by
  cases hempty : m.isEmpty with
  | false => exact optional?_of_get? (by simpa [hempty] using h) hread
  | true =>
    simp only [hempty, Bool.true_eq_false, if_false] at h
    rw [Fields.optional?, h, Keyed.isEmpty_iff.1 hempty]

theorem wellFormed_metadataMembers {m : Metadata} (h : ∀ x ∈ m.doubles, x.ReadsBack)
    {member : String × Value} (hmember : member ∈ metadataMembers name m) :
    member.2.WellFormed := by
  unfold metadataMembers at hmember
  cases hempty : m.isEmpty with
  | true => simp [hempty] at hmember
  | false =>
    simp only [hempty, if_neg Bool.false_ne_true, List.mem_singleton] at hmember
    rw [hmember]
    exact (metadataOfJson?_metadataToJson h).2

theorem keys_toList (name : String) (o : Option α) (write : α → Value) :
    ((o.map fun a => (name, write a)).toList.map Prod.fst).Sublist [name] := by
  cases o with
  | none => exact List.nil_sublist _
  | some a => exact List.Sublist.refl _

theorem keys_metadataMembers (m : Metadata) :
    ((metadataMembers name m).map Prod.fst).Sublist [name] := by
  unfold metadataMembers
  cases m.isEmpty with
  | true => exact List.nil_sublist _
  | false => exact List.Sublist.refl _

end

/-- The members of the variables of a template. -/
def Variables.members (v : Variables) : List (String × Value) :=
  [("name", .text v.name), ("link", .text v.link)] ++ metadataMembers "meta" v.details

namespace Variables

variable {v : Variables}

theorem ofJson?_toJson (h : ∀ x ∈ v.details.doubles, x.ReadsBack) : ofJson? v.toJson = some v := by
  have hkeys : (v.members.map Prod.fst).Sublist fieldNames := by
    rw [members, List.map_append]
    exact (List.Sublist.refl _).append (keys_metadataMembers _)
  obtain ⟨fields, hfields, hget⟩ := fields?_record hkeys (by decide)
  have hname : fields.optional? "name" Value.text? "" = some v.name :=
    optional?_of_get? (by rw [hget]; simp [members]) (text?_text _)
  have hlink : fields.optional? "link" Value.text? "" = some v.link :=
    optional?_of_get? (by rw [hget]; simp [members]) (text?_text _)
  have hdetails : fields.optional? "meta" metadataOfJson? .empty = some v.details :=
    optional?_metadata (by rw [hget]; simp [members, get?_metadataMembers])
      (metadataOfJson?_metadataToJson h).1
  change ofJson? (.record v.members) = some v
  simp only [ofJson?, hfields, hname, hlink, hdetails, Option.bind_eq_bind, Option.bind_some]
  rfl

theorem wellFormed_toJson (h : ∀ x ∈ v.details.doubles, x.ReadsBack) : v.toJson.WellFormed := by
  refine Value.wellFormed_record v.members fun member hmember => ?_
  rcases List.mem_append.1 hmember with hmember | hmember
  · rcases List.mem_cons.1 hmember with rfl | hmember
    · exact enclosed_quote _
    · rw [List.mem_singleton.1 hmember]
      exact enclosed_quote _
  · exact wellFormed_metadataMembers h hmember

end Variables

/-- The doubles of a notification. -/
def Notification.doubles (n : Notification) : List Double :=
  n.values.details.doubles ++ n.metadata.doubles

/-- The members of a notification. -/
def Notification.members (n : Notification) : List (String × Value) :=
  [("notification_type", Value.text n.medium.name)] ++
    (n.token.map fun token => ("token", Value.text token)).toList ++
    (n.userId.map fun user => ("user_id", Value.text user.render)).toList ++
    [("template_code", .text n.templateCode), ("variables", n.values.toJson),
      ("request_id", .text n.requestId), ("priority", .int n.priority.toInt)] ++
    metadataMembers "metadata" n.metadata

namespace Notification

variable {n : Notification}

theorem keys_members (n : Notification) : (n.members.map Prod.fst).Sublist fieldNames := by
  have htoken := keys_toList "token" n.token Value.text
  have huser := keys_toList "user_id" n.userId fun user => Value.text user.render
  simp only [members, List.map_append]
  exact ((((List.Sublist.refl _).append htoken).append huser).append
    (List.Sublist.refl _)).append (keys_metadataMembers _)

/-- A notification is read as it is written. -/
theorem ofJson?_toJson (h : ∀ x ∈ n.doubles, x.ReadsBack) : ofJson? n.toJson = some n := by
  obtain ⟨fields, hfields, hget⟩ := fields?_record n.keys_members (by decide)
  -- each field is looked up among the members, of which some may be left out
  have hmedium : fields.required? "notification_type" Medium.ofJson? = some n.medium := by
    rw [Fields.required?, hget]
    simp [members, Medium.ofJson?_name]
  have htoken : fields.optional? "token" (nullable? Value.text?) none = some n.token := by
    refine optional?_nullable Value.text ?_ text?_text (fun _ h => by cases h)
    rw [hget]
    simp [members, get?_toList, get?_metadataMembers]
  have huserId : fields.optional? "user_id" (nullable? UserId.ofJson?) none = some n.userId := by
    refine optional?_nullable (fun user => Value.text user.render) ?_ (fun user => ?_)
      (fun _ h => by cases h)
    · rw [hget]
      simp [members, get?_toList, get?_metadataMembers]
    · rw [UserId.ofJson?, text?_text, Option.bind_some, user.parse?_render]
  have htemplate : fields.optional? "template_code" Value.text? "" = some n.templateCode :=
    optional?_of_get? (by rw [hget]; simp [members, get?_toList]) (text?_text _)
  have hvalues : fields.optional? "variables" Variables.ofJson? .none = some n.values :=
    optional?_of_get? (by rw [hget]; simp [members, get?_toList])
      (Variables.ofJson?_toJson fun x hx => h x (List.mem_append_left _ hx))
  have hrequestId : fields.required? "request_id" Value.text? = some n.requestId := by
    rw [Fields.required?, hget]
    simp [members, get?_toList]
  have hpriority : fields.optional? "priority" priorityOfJson? 0 = some n.priority :=
    optional?_of_get? (by rw [hget]; simp [members, get?_toList]) (priorityOfJson?_int _)
  have hmetadata : fields.optional? "metadata" metadataOfJson? .empty = some n.metadata :=
    optional?_metadata (by rw [hget]; simp [members, get?_toList, get?_metadataMembers])
      (metadataOfJson?_metadataToJson fun x hx => h x (List.mem_append_right _ hx)).1
  change ofJson? (.record n.members) = some n
  simp only [ofJson?, hfields, hmedium, htoken, huserId, htemplate, hvalues, hrequestId, hpriority,
    hmetadata, Option.bind_eq_bind, Option.bind_some]
  rfl

theorem wellFormed_toJson (h : ∀ x ∈ n.doubles, x.ReadsBack) : n.toJson.WellFormed := by
  refine Value.wellFormed_record n.members fun member hmember => ?_
  simp only [members, List.mem_append, List.mem_cons, List.not_mem_nil, or_false,
    Option.mem_toList, Option.map_eq_some_iff] at hmember
  rcases hmember with (((rfl | ⟨_, _, rfl⟩) | ⟨_, _, rfl⟩) | rfl | rfl | rfl | rfl) | hmember
  · exact enclosed_quote _
  · exact enclosed_quote _
  · exact enclosed_quote _
  · exact enclosed_quote _
  · exact Variables.wellFormed_toJson fun x hx => h x (List.mem_append_left _ hx)
  · exact enclosed_quote _
  · exact wellFormed_ofInt _
  · exact wellFormed_metadataMembers (fun x hx => h x (List.mem_append_right _ hx)) hmember

/-- The octets of a notification are read as that notification. -/
theorem decode?_encode (h : ∀ x ∈ n.doubles, x.ReadsBack) : decode? n.encode = some n := by
  rw [decode?, encode, read?_render (wellFormed_toJson h), Option.bind_some, ofJson?_toJson h]

/-- What is missing in the text of a notification is what it does not have. -/
theorem isSome_get?_members (n : Notification) :
    (Fields.get? n.members "token").isSome = n.token.isSome ∧
      (Fields.get? n.members "user_id").isSome = n.userId.isSome ∧
      (Fields.get? n.members "metadata").isSome = !n.metadata.isEmpty ∧
      Fields.get? n.members "variables" = some (.record n.values.members) ∧
      (Fields.get? n.values.members "meta").isSome = !n.values.details.isEmpty := by
  refine ⟨?_, ?_, ?_, ?_, ?_⟩
  · simp [members, get?_toList, get?_metadataMembers]
  · simp [members, get?_toList, get?_metadataMembers]
  · cases hempty : n.metadata.isEmpty <;> simp [members, get?_toList, get?_metadataMembers, hempty]
  · simp [members, get?_toList]
    rfl
  · cases hempty : n.values.details.isEmpty <;>
      simp [Variables.members, get?_metadataMembers, hempty]

end Notification

namespace Publishing

/-- **The body of a message is read as the notification that it was made of**, although what the
notification does not have is not there in the text: an absent token, an absent user id and empty
maps. -/
theorem decode?_messageOf (c : Config) (n : Notification) (h : ∀ x ∈ n.doubles, x.ReadsBack) :
    Notification.decode? (messageOf c n).body = some n ∧
      ∃ members values : List (String × Value),
        read? (messageOf c n).body = some (.record members) ∧
        Fields.get? members "variables" = some (.record values) ∧
        ((Fields.get? members "token").isSome ↔ n.token.isSome) ∧
        ((Fields.get? members "user_id").isSome ↔ n.userId.isSome) ∧
        ((Fields.get? members "metadata").isSome ↔ n.metadata ≠ .empty) ∧
        ((Fields.get? values "meta").isSome ↔ n.values.details ≠ .empty) := by
  have hread : read? (messageOf c n).body = some n.toJson :=
    read?_render (Notification.wellFormed_toJson h)
  have hempty : ∀ m : Metadata, (!m.isEmpty) = true ↔ m ≠ .empty := by
    intro m
    rw [Bool.not_eq_true', ← Bool.not_eq_true, Keyed.isEmpty_iff]
  obtain ⟨htoken, huserId, hmetadata, hvalues, hdetails⟩ := n.isSome_get?_members
  constructor
  · exact Notification.decode?_encode h
  · refine ⟨n.members, n.values.members, hread, hvalues, ?_, ?_, ?_, ?_⟩
    · rw [htoken]
    · rw [huserId]
    · rw [hmetadata, hempty]
    · rw [hdetails, hempty]

/-- The double nearest to one tenth. -/
def tenth : Double := ⟨false, ⟨7205759403792794, -56, by decide⟩⟩

/-- A notification with every kind of scalar, without a token, and with characters that are written
in each of the ways there are. -/
def variegated : Notification where
  medium := .email
  token := none
  userId := some ⟨List.replicate 31 (Hex.ofByte 0xF0).1 ++ [(Hex.ofByte 0xF0).2], rfl⟩
  templateCode := "\u0000 \n \"\\/ \u007f é €"
  values := ⟨"😀", "\t", ⟨[("", .number (.double ⟨true, ⟨5629499534213120, -51, by decide⟩⟩)),
    ("€", .number (.integer ⟨18446744073709551615, by decide, by decide⟩))], by decide⟩⟩
  requestId := " "
  priority := -2147483648
  metadata := ⟨[("\"", .number (.double tenth)),
    ("b", .bool false)], by decide⟩

theorem decode?_messageOf_variegated :
    (∀ x ∈ variegated.doubles, x.ReadsBack) ∧
      Notification.decode? (messageOf ⟨"", "", 0⟩ variegated).body = some variegated := by
  have h : ∀ x ∈ variegated.doubles, x.ReadsBack := by decide +kernel
  exact ⟨h, (decode?_messageOf ⟨"", "", 0⟩ variegated h).1⟩

end Publishing

end Courier
