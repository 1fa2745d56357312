import Courier.Json.Record
import Courier.Proofs.Json.Document
import Courier.Proofs.Lists

/-!
# Records as they are written

A record that is written as an object is read as that object, and its fields are found under their
names.

* `Json.Value.wellFormed_record`, `Json.read?_record` : a record of values that can be written can be
  written, and then it is read as an object.
* `Json.get?_reverse` : the order of its fields does not matter.
-/

namespace Courier

namespace Json

theorem Value.wellFormed_record (members : List (String × Value))
    (h : ∀ m ∈ members, m.2.WellFormed) : (Value.record members).WellFormed := by
  change WellFormedMembers (members.map fun m => (quote m.1, m.2))
  induction members with
  | nil => trivial
  | cons m members ih =>
    exact ⟨enclosed_quote m.1, h m List.mem_cons_self,
      ih fun m' hm' => h m' (List.mem_cons_of_mem _ hm')⟩

theorem read?_record {members : List (String × Value)} (h : ∀ m ∈ members, m.2.WellFormed) :
    read? (Value.record members).render =
      some (.object (members.map fun m => (quote m.1, m.2))) :=
  read?_render (Value.wellFormed_record members h)

variable {members : Fields}

@[simp] theorem get?_nil (name : String) : Fields.get? [] name = none := rfl

@[simp] theorem get?_cons (name name' : String) (v : Value) (members : Fields) :
    Fields.get? ((name', v) :: members) name =
      if name = name' then some v else Fields.get? members name :=
  lookup_cons_eq name name' v members

@[simp] theorem get?_append (members members' : Fields) (name : String) :
    Fields.get? (members ++ members') name =
      (Fields.get? members name).or (Fields.get? members' name) :=
  List.lookup_append

/-- The order of different fields does not matter. -/
theorem get?_reverse (h : (members.map Prod.fst).Nodup) (name : String) :
    Fields.get? members.reverse name = Fields.get? members name := lookup_reverse h name

end Json

end Courier
