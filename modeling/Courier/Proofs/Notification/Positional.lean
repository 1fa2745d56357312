import Courier.Proofs.Notification.Format
import Courier.Proofs.Notification.RoundTrip

/-!
# Notifications by position

A record can also be written as an array of its fields in their order.  It is then read like the
object that has the elements under the names of the fields, so that a notification by position is
the same as one by name.  Only the end of an array can be left out, so what is absent before that has
to be null; and nothing up to the request id can be left out, since that is required.

* `Notification.ofJson?_array_eq_some_iff` : an array is read as what its elements say under the names
  of the fields.
* `Notification.elements` : the fields of a notification by position.
* `Notification.Positional` : how a notification is read by position.
* `Notification.decode?_positional` : **every notification is read by position as it is by name**, and
  arrays of too few or too many elements are refused.
-/

namespace Courier

open Json

/-! ### Records by position -/

namespace Json

theorem Value.wellFormed_text (s : String) : (Value.text s).WellFormed := enclosed_quote s

/-- An array can be written if its elements can be. -/
theorem Value.wellFormed_array {vs : List Value} (h : ∀ v ∈ vs, v.WellFormed) :
    (Value.array vs).WellFormed := by
  change WellFormedElements vs
  induction vs with
  | nil => trivial
  | cons v vs ih =>
    exact ⟨h v List.mem_cons_self, ih fun v' hv' => h v' (List.mem_cons_of_mem _ hv')⟩

/-- A field that is not among the first members holds what it holds among the others. -/
theorem Holds.append {α : Type} {before members : List (String × Value)} {name : String}
    {R : Value → α → Prop} {fallback a : α} (hbefore : name ∉ before.map Prod.fst)
    (h : Holds members name R fallback a) : Holds (before ++ members) name R fallback a := by
  have hmissing : ∀ v, (name, v) ∉ before := fun v hv => hbefore (List.mem_map_of_mem hv)
  rcases h with ⟨v, hv, hR⟩ | ⟨hnone, rfl⟩
  · exact .inl ⟨v, List.mem_append_right _ hv, hR⟩
  · exact .inr ⟨fun v hv => (List.mem_append.1 hv).elim (hmissing v) (hnone v), rfl⟩

/-- A value that may be absent, which is null then. -/
def orNull (v : Option Value) : Value := v.getD .null

theorem nullable_orNull {α : Type} {R : Value → α → Prop} {write : α → Value}
    (h : ∀ a, R (write a) a) (o : Option α) : Nullable R (orNull (o.map write)) o := by
  cases o with
  | none => rfl
  | some a => exact h a

theorem wellFormed_orNull {α : Type} (write : α → Value) (h : ∀ a, (write a).WellFormed)
    (o : Option α) : (orNull (o.map write)).WellFormed := by
  cases o with
  | none => trivial
  | some a => exact h a

end Json

variable {vs : List Value}

namespace Variables

/-- Variables are read of an array as what its elements say under the names of the fields. -/
theorem ofJson?_array_eq_some_iff {a : Variables} : ofJson? (.array vs) = some a ↔
    vs.length ≤ 3 ∧ Taken (fieldNames.zip vs) a :=
  (ofJson?_eq_some_iff _ a).trans (exists_lists_array_iff (by decide))

/-- The variables of a template by position. -/
def elements (a : Variables) : List Value := [.text a.name, .text a.link, metadataToJson a.details]

/-- The variables of a template as an object, and by position. -/
def forms (a : Variables) : List Value := [a.toJson, .array a.elements]

/-- Variables are read in either form, and can be written so. -/
theorem given_of_mem_forms {a : Variables} {v : Value} (h : ∀ x ∈ a.details.doubles, x.ReadsBack)
    (hv : v ∈ a.forms) : Given v a ∧ v.WellFormed := by
  obtain ⟨hdetails, hformed⟩ := metadataOfJson?_metadataToJson h
  rcases List.mem_cons.1 hv with rfl | hv
  · exact ⟨(ofJson?_eq_some_iff _ a).1 (ofJson?_toJson h), wellFormed_toJson h⟩
  · obtain rfl := List.mem_singleton.1 hv
    constructor
    · refine (ofJson?_eq_some_iff _ a).1 (ofJson?_array_eq_some_iff.2 ⟨Nat.le_refl 3, ?_⟩)
      exact {
        name := .inl ⟨.text a.name, by simp [elements, fieldNames], text?_text _⟩
        link := .inl ⟨.text a.link, by simp [elements, fieldNames], text?_text _⟩
        details := .inl ⟨metadataToJson a.details, by simp [elements, fieldNames],
          metadataOfJson?_eq_some_iff.1 hdetails⟩ }
    · refine Value.wellFormed_array ?_
      simp only [elements, List.forall_mem_cons]
      exact ⟨Value.wellFormed_text _, Value.wellFormed_text _, hformed, nofun⟩

end Variables

namespace Notification

variable {n : Notification} {v values : Value}

/-- A notification is read of an array as what its elements say under the names of the fields. -/
theorem ofJson?_array_eq_some_iff : ofJson? (.array vs) = some n ↔
    vs.length ≤ 8 ∧ Taken (fieldNames.zip vs) n :=
  (ofJson?_eq_some_iff _ n).trans (exists_lists_array_iff (by decide))

/-- An array is read as the object that has its elements under the names of the fields. -/
theorem ofJson?_array (h : vs.length ≤ 8) :
    ofJson? (.array vs) = ofJson? (.record (fieldNames.zip vs)) := by
  refine Option.ext fun n => ?_
  rw [ofJson?_array_eq_some_iff, Value.record, ofJson?_object_eq_some_iff]
  constructor
  · rintro ⟨-, htaken⟩
    exact ⟨_, named?_quote _, once_zip (by decide) vs, htaken⟩
  · rintro ⟨members, hnamed, -, htaken⟩
    obtain rfl := Option.some.inj ((named?_quote _).symm.trans hnamed)
    exact ⟨h, htaken⟩

/-! ### What is refused -/

/-- Every text of a value is refused. -/
def Refused (v : Value) : Prop := ∀ bytes, read? bytes = some v → decode? bytes = none

theorem refused_of_forall (h : ∀ n, ofJson? v ≠ some n) : Refused v := by
  intro bytes hread
  rw [decode?, hread, Option.bind_some]
  exact Option.eq_none_iff_forall_ne_some.2 h

/-- An array that does not reach the request id is refused, and so is one with more elements than
there are fields. -/
theorem refused_of_length (h : vs.length < 6 ∨ 8 < vs.length) : Refused (.array vs) := by
  refine refused_of_forall fun n hn => ?_
  obtain ⟨hle, htaken⟩ := ofJson?_array_eq_some_iff.1 hn
  obtain ⟨v, hv, -⟩ := htaken.requestId
  rw [List.zip_eq_zip_take_min] at hv
  have hshort : min fieldNames.length vs.length ≤ 5 := by omega
  have hmem := List.take_subset_take_left fieldNames hshort (List.of_mem_zip hv).1
  -- the request id is the sixth field
  exact absurd hmem (by decide)

/-- A notification whose variables are an array with more elements than fields is refused. -/
theorem refused_of_variables {members : List (String × Value)} (hlists : v.Lists fieldNames members)
    (hv : ("variables", .array vs) ∈ members) (h : 3 < vs.length) : Refused v := by
  refine refused_of_forall fun n hn => ?_
  obtain ⟨members', hlists', honce, htaken⟩ := (ofJson?_eq_some_iff v n).1 hn
  obtain rfl := hlists.unique hlists'
  rcases htaken.values with ⟨w, hw, hgiven⟩ | ⟨hmissing, -⟩
  · obtain rfl := honce.eq (by decide) hw hv
    have hread := (Variables.ofJson?_eq_some_iff _ n.values).2 hgiven
    exact absurd (Variables.ofJson?_array_eq_some_iff.1 hread).1 (Nat.not_le.2 h)
  · exact hmissing _ hv

/-! ### What is read -/

/-- The fields of a notification up to the last one that is required, by position, with its variables
written in some way. -/
def firstElements (n : Notification) (values : Value) : List Value :=
  [.text n.medium.name, orNull (n.token.map Value.text),
    orNull (n.userId.map fun user => .text user.render), .text n.templateCode, values,
    .text n.requestId]

/-- The fields of a notification by position, with its variables written in some way. -/
def elements (n : Notification) (values : Value) : List Value :=
  n.firstElements values ++ [.int n.priority.toInt, metadataToJson n.metadata]

/-- A value can be written, and every text of it is read as a notification. -/
structure ReadAs (v : Value) (n : Notification) : Prop where
  written : read? v.render = some v
  decoded : ∀ bytes, read? bytes = some v → decode? bytes = some n

theorem ReadAs.of_ofJson? (hformed : v.WellFormed) (h : ofJson? v = some n) : ReadAs v n where
  written := read?_render hformed
  decoded bytes hread := by rw [decode?, hread, Option.bind_some, h]

/-- The first fields say what the notification says; of the others, each says what it says alone. -/
theorem taken_firstElements {last : List (String × Value)} {priority : Int32} {metadata : Metadata}
    (hvalues : Variables.Given values n.values)
    (hpriority : Holds last "priority" Value.IsPriority 0 priority)
    (hmetadata : Holds last "metadata" Metadata.Given .empty metadata) :
    Taken (fieldNames.zip (n.firstElements values) ++ last)
      { n with priority := priority, metadata := metadata } where
  medium := ⟨.text n.medium.name, by simp [firstElements, fieldNames], .inl (text?_text _)⟩
  token := .inl ⟨orNull (n.token.map Value.text), by simp [firstElements, fieldNames],
    nullable_orNull text?_text n.token⟩
  userId := .inl ⟨orNull (n.userId.map fun user => .text user.render),
    by simp [firstElements, fieldNames],
    nullable_orNull (fun user => ⟨user.render, text?_text _, user.parse?_render⟩) n.userId⟩
  templateCode := .inl ⟨.text n.templateCode, by simp [firstElements, fieldNames], text?_text _⟩
  values := .inl ⟨values, by simp [firstElements, fieldNames], hvalues⟩
  requestId := ⟨.text n.requestId, by simp [firstElements, fieldNames], text?_text _⟩
  priority := hpriority.append (by simp [firstElements, fieldNames])
  metadata := hmetadata.append (by simp [firstElements, fieldNames])

/-- So a notification is read by position, up to two fields that are there or not. -/
theorem ofJson?_firstElements {last : List Value} {priority : Int32} {metadata : Metadata}
    (hlength : last.length ≤ 2) (hvalues : Variables.Given values n.values)
    (hpriority : Holds (["priority", "metadata"].zip last) "priority" Value.IsPriority 0 priority)
    (hmetadata : Holds (["priority", "metadata"].zip last) "metadata" Metadata.Given .empty
      metadata) :
    ofJson? (.array (n.firstElements values ++ last)) =
      some { n with priority := priority, metadata := metadata } := by
  refine ofJson?_array_eq_some_iff.2 ⟨?_, taken_firstElements hvalues hpriority hmetadata⟩
  rw [List.length_append]
  exact Nat.add_le_add_left hlength 6

/-- The fields of a notification can be written. -/
theorem wellFormed_of_mem_elements (h : ∀ x ∈ n.metadata.doubles, x.ReadsBack)
    (hvalues : values.WellFormed) : ∀ v ∈ n.elements values, v.WellFormed := by
  simp only [elements, firstElements, List.cons_append, List.nil_append, List.forall_mem_cons]
  exact ⟨Value.wellFormed_text _, wellFormed_orNull Value.text Value.wellFormed_text _,
    wellFormed_orNull (fun user : UserId => .text user.render)
      (fun user => Value.wellFormed_text user.render) _,
    Value.wellFormed_text _, hvalues, Value.wellFormed_text _, wellFormed_ofInt _,
    (metadataOfJson?_metadataToJson h).2, nofun⟩

/-- How a notification is read by position: as by name if all its fields are there, and with what an
absent field stands for if the last of them are not. -/
structure Positional (n : Notification) : Prop where
  named : decode? n.encode = some n
  complete : ∀ values ∈ n.values.forms, ReadAs (.array (n.elements values)) n
  withoutMetadata : ∀ values ∈ n.values.forms,
    ReadAs (.array ((n.elements values).take 7)) { n with metadata := .empty }
  required : ∀ values ∈ n.values.forms,
    ReadAs (.array ((n.elements values).take 6)) { n with priority := 0, metadata := .empty }

theorem positional (h : ∀ x ∈ n.doubles, x.ReadsBack) : Positional n := by
  have hdoubles : ∀ x ∈ n.metadata.doubles, x.ReadsBack :=
    fun x hx => h x (List.mem_append_right _ hx)
  have hforms : ∀ values ∈ n.values.forms, Variables.Given values n.values ∧ values.WellFormed :=
    fun values => Variables.given_of_mem_forms fun x hx => h x (List.mem_append_left _ hx)
  have hpriority : (Value.int n.priority.toInt).IsPriority n.priority :=
    (priorityOfJson?_eq_some_iff _ _).1 (priorityOfJson?_int _)
  have hmetadata : Metadata.Given (metadataToJson n.metadata) n.metadata :=
    metadataOfJson?_eq_some_iff.1 (metadataOfJson?_metadataToJson hdoubles).1
  have hformed : ∀ values ∈ n.values.forms, ∀ k,
      (Value.array ((n.elements values).take k)).WellFormed := by
    intro values hvalues k
    refine Value.wellFormed_array fun v hv => ?_
    exact wellFormed_of_mem_elements hdoubles (hforms values hvalues).2 v (List.mem_of_mem_take hv)
  refine ⟨decode?_encode h, ?_, ?_, ?_⟩
  · intro values hvalues
    refine .of_ofJson? (hformed values hvalues 8)
      (ofJson?_firstElements (Nat.le_refl 2) (hforms values hvalues).1 ?_ ?_)
    · exact .inl ⟨_, List.mem_cons_self, hpriority⟩
    · exact .inl ⟨_, List.mem_cons_of_mem _ List.mem_cons_self, hmetadata⟩
  · intro values hvalues
    have hread : ofJson? (.array (n.firstElements values ++ [.int n.priority.toInt])) =
        some { n with metadata := .empty } := by
      refine ofJson?_firstElements (Nat.le_succ 1) (hforms values hvalues).1 ?_ ?_
      · exact .inl ⟨_, List.mem_cons_self, hpriority⟩
      · exact .inr ⟨by simp, rfl⟩
    exact .of_ofJson? (hformed values hvalues 7) hread
  · intro values hvalues
    -- none of the fields that are left out has to be there
    have hread : ofJson? (.array (n.firstElements values ++ [])) =
        some { n with priority := 0, metadata := .empty } :=
      ofJson?_firstElements (Nat.zero_le 2) (hforms values hvalues).1 (.inr ⟨nofun, rfl⟩)
        (.inr ⟨nofun, rfl⟩)
    exact .of_ofJson? (hformed values hvalues 6) hread

/-- **Every notification is read by position as it is by name**, with its variables in either form,
and without the last fields as one that does not have them.  An array is read like the object that
has its elements under the names of the fields; one that does not reach the request id or has too
many elements is refused, and so is a notification whose variables have too many. -/
theorem decode?_positional (h : ∀ x ∈ n.doubles, x.ReadsBack) :
    Positional n ∧
      (∀ vs : List Value, vs.length ≤ 8 →
        ofJson? (.array vs) = ofJson? (.record (fieldNames.zip vs))) ∧
      (∀ vs : List Value, vs.length < 6 ∨ 8 < vs.length → Refused (.array vs)) ∧
      ∀ (v : Value) (members : List (String × Value)) (vs : List Value),
        v.Lists fieldNames members → ("variables", .array vs) ∈ members → 3 < vs.length →
          Refused v :=
  ⟨positional h, fun _ => ofJson?_array, fun _ => refused_of_length,
    fun _ _ _ => refused_of_variables⟩

/-- A notification without a token, by position with its variables by position as well, and its
first fields alone. -/
theorem decode?_positional_variegated :
    (∀ x ∈ Publishing.variegated.doubles, x.ReadsBack) ∧
      decode? (Value.array (Publishing.variegated.elements
        (.array Publishing.variegated.values.elements))).render = some Publishing.variegated ∧
      decode? (Value.array ((Publishing.variegated.elements
        (.array Publishing.variegated.values.elements)).take 6)).render =
          some { Publishing.variegated with priority := 0, metadata := .empty } := by
  have h : ∀ x ∈ Publishing.variegated.doubles, x.ReadsBack := by decide +kernel
  obtain ⟨⟨-, hcomplete, -, hrequired⟩, -⟩ := decode?_positional h
  have hform := List.mem_cons_of_mem Publishing.variegated.values.toJson
    (List.mem_singleton_self (Value.array Publishing.variegated.values.elements))
  exact ⟨h, (hcomplete _ hform).decoded _ (hcomplete _ hform).written,
    (hrequired _ hform).decoded _ (hrequired _ hform).written⟩

end Notification

end Courier
