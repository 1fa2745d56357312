import Courier.Json.Printer
import Courier.Proofs.Json.Quoted

/-!
# Documents there and back

A value that is written as a document is read as that value.  This needs of the parts of the value
only what every writer ensures: a number has digits where the grammar asks for them and no leading
zeros, and the octets of a string are such that the reader takes them for the inside of a string.

The reader has no state for a number that has ended, since only the octet behind a number tells that
it has.  So the induction is not on states after a value but on states that go on like one.

* `Json.Literal.WellFormed`, `Json.Value.WellFormed` : what is asked of a value.
* `Json.Ended` : states of the reader that go on like one in which a value has ended.
* `Json.run_render` : the text of a value leads the reader to such a state, inside any containers.
* `Json.read?_render` : **a written value is read as that value.**
-/

namespace Courier

namespace Json

/-! ### Numbers -/

/-- A literal that the grammar allows. -/
structure Literal.WellFormed (l : Literal) : Prop where
  /-- There are digits in front of the point. -/
  whole : l.whole ≠ []
  /-- A leading zero stands alone. -/
  leading : ∀ ds, l.whole = 0 :: ds → ds = []
  /-- An exponent has digits. -/
  exponent : ∀ negative ds, l.exponent = some (negative, ds) → ds ≠ []

/-- The parts in which a number may end. -/
def Part.mayEnd : Part → Bool
  | .zero | .whole | .fraction | .powerDigits => true
  | .sign | .point | .power | .powerSign => false

theorem digit?_digitByte : ∀ d : Digit, digit? (UInt8.ofNat (48 + d.val)) = some d := by decide

theorem isSpace_digitByte : ∀ d : Digit, isSpace (UInt8.ofNat (48 + d.val)) = false := by decide

@[simp] theorem digitBytes_cons (d : Digit) (ds : List Digit) :
    digitBytes (d :: ds) = UInt8.ofNat (48 + d.val) :: digitBytes ds := rfl

variable {frames : List Frame} {n n' : Partial} {b : UInt8} {rest : Bytes}

theorem run_number (h : n.push? b = some n') :
    run (.number n frames) (b :: rest) = run (.number n' frames) rest := by
  simp only [run, step, h]

/-- Digits, where each of them leads from one state of a family to the next. -/
theorem run_digits (grow : List Digit → Partial)
    (hgrow : ∀ d ds, (grow ds).push? (UInt8.ofNat (48 + d.val)) = some (grow (d :: ds)))
    (before ds : List Digit) :
    run (.number (grow before) frames) (digitBytes ds ++ rest) =
      run (.number (grow (ds.reverse ++ before)) frames) rest := by
  induction ds generalizing before with
  | nil => rfl
  | cons d ds ih =>
    rw [digitBytes_cons, List.cons_append, run_number (hgrow d before), ih, List.reverse_cons,
      List.append_assoc, List.singleton_append]

/-- The first digit of a number without a sign. -/
theorem begin_digit (d : Digit) :
    begin frames (UInt8.ofNat (48 + d.val)) =
      ((⟨false, [], [], none, .sign⟩ : Partial).push? (UInt8.ofNat (48 + d.val))).map
        (.number · frames) := by
  have hoctet : (UInt8.ofNat (48 + d.val)).toNat = 48 + d.val := by revert d; decide
  have hd := d.isLt
  unfold begin
  -- the octets of the other alternatives are no digits
  split
  all_goals first
    | omega
    | rfl

/-- The digits in front of the point, after the sign. -/
theorem run_sign (frames : List Frame) {l : Literal} (hl : l.WellFormed) :
    ∃ part, (part = .zero ∨ part = .whole) ∧
      run (.value frames) ((if l.negative then [0x2D] else []) ++ digitBytes l.whole) =
        some (.number ⟨l.negative, l.whole.reverse, [], none, part⟩ frames) := by
  obtain ⟨d, ds, hwhole⟩ := List.exists_cons_of_ne_nil hl.whole
  have hfirst : ∀ negative, (⟨negative, [], [], none, .sign⟩ : Partial).push?
      (UInt8.ofNat (48 + d.val)) =
        some ⟨negative, [d], [], none, if d.val = 0 then .zero else .whole⟩ := by
    intro negative
    simp only [Partial.push?, digit?_digitByte]
  have hstart : run (.value frames) ((if l.negative then [0x2D] else []) ++ digitBytes l.whole) =
      run (.number ⟨l.negative, [d], [], none, if d.val = 0 then .zero else .whole⟩ frames)
        (digitBytes ds ++ []) := by
    rw [hwhole, digitBytes_cons, List.append_nil]
    cases l.negative with
    | true =>
      have hminus : step (.value frames) 0x2D =
        some (.number ⟨true, [], [], none, .sign⟩ frames) := rfl
      rw [if_pos rfl, List.singleton_append, run, hminus]
      exact run_number (hfirst true)
    | false =>
      rw [if_neg Bool.false_ne_true, List.nil_append, run, step, isSpace_digitByte,
        if_neg Bool.false_ne_true, begin_digit, hfirst false]
      rfl
  rw [hstart]
  by_cases hzero : d = 0
  · -- no further digit may follow then, and none does
    subst hzero
    obtain rfl := hl.leading ds hwhole
    rw [hwhole]
    exact ⟨.zero, .inl rfl, rfl⟩
  · have hpart : (if d.val = 0 then Part.zero else .whole) = .whole :=
      if_neg fun h => hzero (Fin.ext h)
    refine ⟨.whole, .inr rfl, ?_⟩
    rw [hpart, run_digits (fun ds => ⟨l.negative, ds, [], none, .whole⟩)
      (fun e ds => by simp only [Partial.push?, digit?_digitByte]), hwhole, List.reverse_cons]
    rfl

/-- The point and the digits after it, if there are any. -/
theorem run_point (frames : List Frame) (negative : Bool) (whole fraction : List Digit)
    {part : Part} (hpart : part = .zero ∨ part = .whole) :
    ∃ part', (part' = part ∨ part' = .fraction) ∧
      run (.number ⟨negative, whole, [], none, part⟩ frames)
          (if fraction.isEmpty then [] else 0x2E :: digitBytes fraction) =
        some (.number ⟨negative, whole, fraction.reverse, none, part'⟩ frames) := by
  cases fraction with
  | nil => exact ⟨part, .inl rfl, rfl⟩
  | cons d ds =>
    have hpoint : (⟨negative, whole, [], none, part⟩ : Partial).push? 0x2E =
        some ⟨negative, whole, [], none, .point⟩ := by
      rcases hpart with rfl | rfl <;> rfl
    have hfirst : (⟨negative, whole, [], none, .point⟩ : Partial).push?
        (UInt8.ofNat (48 + d.val)) = some ⟨negative, whole, [d], none, .fraction⟩ := by
      simp only [Partial.push?, digit?_digitByte]
    refine ⟨.fraction, .inr rfl, ?_⟩
    rw [List.isEmpty_cons, if_neg Bool.false_ne_true, run_number hpoint, digitBytes_cons,
      run_number hfirst, ← List.append_nil (digitBytes ds),
      run_digits (fun ds => ⟨negative, whole, ds, none, .fraction⟩)
        (fun e ds => by simp only [Partial.push?, digit?_digitByte]), List.reverse_cons]
    rfl

/-- The exponent, if there is one. -/
theorem run_exponent (frames : List Frame) (negative : Bool) (whole fraction : List Digit)
    (exponent : Option (Bool × List Digit)) {part : Part}
    (hexponent : ∀ minus ds, exponent = some (minus, ds) → ds ≠ [])
    (hpart : part = .zero ∨ part = .whole ∨ part = .fraction) :
    ∃ part', part'.mayEnd = true ∧
      run (.number ⟨negative, whole, fraction, none, part⟩ frames)
          (match exponent with
            | none => []
            | some (minus, ds) => 0x65 :: (if minus then 0x2D else 0x2B) :: digitBytes ds) =
        some (.number ⟨negative, whole, fraction,
          exponent.map fun (minus, ds) => (minus, ds.reverse), part'⟩ frames) := by
  cases exponent with
  | none => exact ⟨part, by rcases hpart with rfl | rfl | rfl <;> rfl, rfl⟩
  | some e =>
    obtain ⟨minus, ds⟩ := e
    obtain ⟨d, ds, rfl⟩ := List.exists_cons_of_ne_nil (hexponent minus ds rfl)
    have hpower : (⟨negative, whole, fraction, none, part⟩ : Partial).push? 0x65 =
        some ⟨negative, whole, fraction, some (false, []), .power⟩ := by
      rcases hpart with rfl | rfl | rfl <;> rfl
    have hsign : (⟨negative, whole, fraction, some (false, []), .power⟩ : Partial).push?
        (if minus then 0x2D else 0x2B) =
          some ⟨negative, whole, fraction, some (minus, []), .powerSign⟩ := by
      cases minus <;> rfl
    have hfirst : (⟨negative, whole, fraction, some (minus, []), .powerSign⟩ : Partial).push?
        (UInt8.ofNat (48 + d.val)) =
          some ⟨negative, whole, fraction, some (minus, [d]), .powerDigits⟩ := by
      simp only [Partial.push?, digit?_digitByte, Option.getD_some]
    refine ⟨.powerDigits, rfl, ?_⟩
    simp only
    rw [run_number hpower, run_number hsign, digitBytes_cons, run_number hfirst,
      ← List.append_nil (digitBytes ds),
      run_digits (fun ds => ⟨negative, whole, fraction, some (minus, ds), .powerDigits⟩)
        (fun e ds => by simp only [Partial.push?, digit?_digitByte, Option.getD_some]),
      Option.map_some, List.reverse_cons]
    rfl

/-- A literal that the reader has taken up to its last octet. -/
def Literal.complete (l : Literal) (part : Part) : Partial :=
  ⟨l.negative, l.whole.reverse, l.fraction.reverse,
    l.exponent.map fun (minus, ds) => (minus, ds.reverse), part⟩

theorem finish?_complete (l : Literal) {part : Part} (h : part.mayEnd = true) :
    (l.complete part).finish? = some l := by
  have hliteral : (⟨(l.complete part).negative, (l.complete part).whole.reverse,
      (l.complete part).fraction.reverse,
      (l.complete part).exponent.map fun (minus, ds) => (minus, ds.reverse)⟩ : Literal) = l := by
    obtain ⟨negative, whole, fraction, exponent⟩ := l
    cases exponent <;> simp [Literal.complete]
  unfold Partial.finish?
  rw [hliteral]
  cases part <;> first | rfl | cases h

theorem run_literal (frames : List Frame) {l : Literal} (hl : l.WellFormed) :
    ∃ part, part.mayEnd = true ∧
      run (.value frames) l.render = some (.number (l.complete part) frames) := by
  obtain ⟨part, hpart, hwhole⟩ := run_sign frames hl
  obtain ⟨part', hpart', hfraction⟩ :=
    run_point frames l.negative l.whole.reverse l.fraction hpart
  have hpart' : part' = .zero ∨ part' = .whole ∨ part' = .fraction := by
    rcases hpart with rfl | rfl <;> rcases hpart' with rfl | rfl <;> simp
  obtain ⟨part'', hpart'', hexponent⟩ :=
    run_exponent frames l.negative l.whole.reverse l.fraction.reverse l.exponent
      hl.exponent hpart'
  refine ⟨part'', hpart'', ?_⟩
  rw [Literal.render, run_append, run_append, hwhole, Option.bind_some, hfraction,
    Option.bind_some]
  exact hexponent

/-! ### Values -/

/-- The octets that can follow a value inside a container. -/
def Follows (b : UInt8) : Prop := b = 0x2C ∨ b = 0x5D ∨ b = 0x7D

/-- A state that goes on like one in which a value has ended. -/
structure Ended (v : Value) (frames : List Frame) (s : State) : Prop where
  /-- It takes what follows a value for what it is. -/
  step : ∀ b, Follows b → step s b = close v frames b
  /-- The document may end with it. -/
  finish : frames = [] → s.finish? = some v

theorem Ended.after (v : Value) (frames : List Frame) : Ended v frames (.after v frames) where
  step _ _ := rfl
  finish h := by subst h; rfl

/-- A complete literal goes on like a value, since nothing that can follow a value is part of it. -/
theorem Ended.number (l : Literal) {part : Part} (h : part.mayEnd = true) :
    Ended (.number l) frames (.number (l.complete part) frames) where
  step b hb := by
    -- the octet cannot go on with the literal, so the literal ends and the octet is read behind it
    have hpush : (l.complete part).push? b = none := by
      have hdigit : digit? b = none := by rcases hb with rfl | rfl | rfl <;> decide
      have hpart : (l.complete part).part = part := rfl
      unfold Partial.push?
      rw [hdigit, hpart]
      cases part with
      | zero | whole | fraction => rcases hb with rfl | rfl | rfl <;> rfl
      | powerDigits => rfl
      | sign | point | power | powerSign => cases h
    simp only [Json.step, hpush, finish?_complete l h, Option.bind_some]
  finish hframes := by
    subst hframes
    simp only [State.finish?, finish?_complete l h, Option.map_some]

mutual

/-- A value whose parts the grammar allows. -/
def Value.WellFormed : Value → Prop
  | .null => True
  | .bool _ => True
  | .number l => l.WellFormed
  | .string raw => Enclosed raw
  | .array elements => WellFormedElements elements
  | .object members => WellFormedMembers members

/-- The same of elements. -/
def WellFormedElements : List Value → Prop
  | [] => True
  | v :: rest => v.WellFormed ∧ WellFormedElements rest

/-- The same of members and of their names. -/
def WellFormedMembers : List (Raw × Value) → Prop
  | [] => True
  | (name, v) :: rest => Enclosed name ∧ v.WellFormed ∧ WellFormedMembers rest

end

/-- A written value begins with an octet that is neither a blank nor the end of an array. -/
theorem render_eq_cons {v : Value} (hv : v.WellFormed) :
    ∃ b rest, v.render = b :: rest ∧ isSpace b = false ∧ b ≠ 0x5D := by
  cases v with
  | null => exact ⟨_, _, rfl, by decide, by decide⟩
  | bool t => cases t <;> exact ⟨_, _, rfl, by decide, by decide⟩
  | string raw => exact ⟨_, _, rfl, by decide, by decide⟩
  | array elements => cases elements <;> exact ⟨_, _, rfl, by decide, by decide⟩
  | object members => cases members <;> exact ⟨_, _, rfl, by decide, by decide⟩
  | number l =>
    obtain ⟨d, ds, hwhole⟩ := List.exists_cons_of_ne_nil (Literal.WellFormed.whole hv)
    cases hnegative : l.negative with
    | true => exact ⟨0x2D, _, by rw [Value.render, Literal.render, hnegative]; rfl,
        by decide, by decide⟩
    | false =>
      have hne : ∀ d : Digit, UInt8.ofNat (48 + d.val) ≠ 0x5D := by decide
      have hrender : ∃ rest, (Value.number l).render = UInt8.ofNat (48 + d.val) :: rest := by
        rw [Value.render, Literal.render, hnegative, hwhole]
        exact ⟨_, rfl⟩
      obtain ⟨rest, hrender⟩ := hrender
      exact ⟨_, rest, hrender, isSpace_digitByte d, hne d⟩

/-- The first element of an array is read like a value on its own. -/
theorem run_firstElement {v : Value} (hv : v.WellFormed) (frames : List Frame) :
    run (.firstElement frames) v.render = run (.value (.array [] :: frames)) v.render := by
  obtain ⟨b, rest, hrender, hspace, hend⟩ := render_eq_cons hv
  rw [hrender, run, run, step, step, hspace, if_neg Bool.false_ne_true, if_neg hend,
    if_neg Bool.false_ne_true]

/-- A name and the colon behind it. -/
theorem run_name {name : Raw} (hname : Enclosed name) (before : List (Raw × Value))
    (frames : List Frame) (rest : Bytes) :
    run (.string [] .none (.name before) frames) (name ++ 0x22 :: 0x3A :: rest) =
      run (.value (.object before name :: frames)) rest := by
  rw [run_append, hname, Option.bind_some, List.append_nil]
  simp only [run, step, inString, if_pos, List.reverse_reverse]
  rfl

mutual

/-- **A written value leads the reader to its end**, inside any containers. -/
theorem run_render : ∀ (v : Value), v.WellFormed → ∀ frames,
    ∃ s, run (.value frames) v.render = some s ∧ Ended v frames s
  | .null, _, frames => ⟨_, rfl, .after _ _⟩
  | .bool true, _, frames => ⟨_, rfl, .after _ _⟩
  | .bool false, _, frames => ⟨_, rfl, .after _ _⟩
  | .number l, hl, frames => by
    obtain ⟨part, hpart, hrun⟩ := run_literal frames hl
    exact ⟨_, hrun, .number l hpart⟩
  | .string raw, hraw, frames => by
    refine ⟨_, ?_, .after _ _⟩
    have hopen : run (.value frames) (Value.string raw).render =
        run (.string [] .none .value frames) (raw ++ [0x22]) := rfl
    rw [hopen, run_append, hraw, Option.bind_some, List.append_nil]
    simp only [run, step, inString, if_pos, List.reverse_reverse]
  | .array [], _, frames => ⟨_, rfl, .after _ _⟩
  | .array (v :: rest), h, frames => by
    obtain ⟨hv, hrest⟩ := h
    obtain ⟨s, hrun, hended⟩ := run_render v hv (.array [] :: frames)
    refine ⟨_, ?_, .after _ _⟩
    -- the frame of the array waits for the end of its first element
    have hopen : run (.value frames) (Value.array (v :: rest)).render =
        run (.firstElement frames) (v.render ++ (renderElements rest ++ [0x5D])) := by
      rw [Value.render, List.append_assoc]
      rfl
    rw [hopen, run_append, run_firstElement hv, hrun, Option.bind_some,
      run_renderElements rest hrest hended]
    rfl
  | .object [], _, frames => ⟨_, rfl, .after _ _⟩
  | .object ((name, v) :: rest), h, frames => by
    obtain ⟨hname, hv, hrest⟩ := h
    obtain ⟨s, hrun, hended⟩ := run_render v hv (.object [] name :: frames)
    refine ⟨_, ?_, .after _ _⟩
    have hopen : run (.value frames) (Value.object ((name, v) :: rest)).render =
        run (.string [] .none (.name []) frames)
          (name ++ 0x22 :: 0x3A :: (v.render ++ (renderMembers rest ++ [0x7D]))) := by
      simp only [Value.render, List.cons_append, List.append_assoc]
      rfl
    rw [hopen, run_name hname, run_append, hrun, Option.bind_some,
      run_renderMembers rest hrest hended]
    rfl

/-- The further elements of an array, and its end. -/
theorem run_renderElements : ∀ (rest : List Value), WellFormedElements rest →
    ∀ {v : Value} {s : State} {done : List Value} {outer : List Frame},
      Ended v (.array done :: outer) s →
        run s (renderElements rest ++ [0x5D]) =
          some (.after (.array ((v :: done).reverse ++ rest)) outer)
  | [], _, v, s, done, outer, hs => by
    have hclose := hs.step 0x5D (.inr (.inl rfl))
    rw [renderElements, List.nil_append, run, hclose, List.append_nil]
    rfl
  | v' :: rest, h, v, s, done, outer, hs => by
    obtain ⟨hv', hrest⟩ := h
    have hcomma := hs.step 0x2C (.inl rfl)
    obtain ⟨s', hrun, hended⟩ := run_render v' hv' (.array (v :: done) :: outer)
    have hnext : run s (renderElements (v' :: rest) ++ [0x5D]) =
        run (.value (.array (v :: done) :: outer))
          (v'.render ++ (renderElements rest ++ [0x5D])) := by
      simp only [renderElements, List.cons_append, List.append_assoc, run, hcomma]
      rfl
    rw [hnext, run_append, hrun, Option.bind_some, run_renderElements rest hrest hended,
      List.reverse_cons, List.append_assoc, List.singleton_append]

/-- The further members of an object, and its end. -/
theorem run_renderMembers : ∀ (rest : List (Raw × Value)), WellFormedMembers rest →
    ∀ {name : Raw} {v : Value} {s : State} {done : List (Raw × Value)} {outer : List Frame},
      Ended v (.object done name :: outer) s →
        run s (renderMembers rest ++ [0x7D]) =
          some (.after (.object (((name, v) :: done).reverse ++ rest)) outer)
  | [], _, name, v, s, done, outer, hs => by
    have hclose := hs.step 0x7D (.inr (.inr rfl))
    rw [renderMembers, List.nil_append, run, hclose, List.append_nil]
    rfl
  | (name', v') :: rest, h, name, v, s, done, outer, hs => by
    obtain ⟨hname', hv', hrest⟩ := h
    have hcomma := hs.step 0x2C (.inl rfl)
    obtain ⟨s', hrun, hended⟩ := run_render v' hv' (.object ((name, v) :: done) name' :: outer)
    have hnext : run s (renderMembers ((name', v') :: rest) ++ [0x7D]) =
        run (.string [] .none (.name ((name, v) :: done)) outer)
          (name' ++ 0x22 :: 0x3A :: (v'.render ++ (renderMembers rest ++ [0x7D]))) := by
      simp only [renderMembers, List.cons_append, List.append_assoc, run, hcomma]
      rfl
    rw [hnext, run_name hname', run_append, hrun, Option.bind_some,
      run_renderMembers rest hrest hended, List.reverse_cons, List.append_assoc,
      List.singleton_append]

end

/-- **A written value is read as that value.** -/
theorem read?_render {v : Value} (hv : v.WellFormed) : read? v.render = some v := by
  obtain ⟨s, hrun, hended⟩ := run_render v hv []
  rw [read?, hrun, Option.bind_some, hended.finish rfl]

end Json

end Courier
