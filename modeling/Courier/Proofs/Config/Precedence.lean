import Courier.Config.EnvFile
import Courier.Proofs.Config.Loading

/-!
# An environment and a file

A file is merged into an environment by the exact names of variables, but these name fields in any
case.  So a name that differs from one in the environment only in case is added to it, and makes a
second variable for one field; that is no configuration, and the value of the environment is never
replaced.

* `EnvFile.assignments` : the assignments in a file, in their order and up to the first bad line.
* `EnvFile.fresh` : those to names that have no value yet.
* `EnvFile.apply_eq` : the file adds these to the environment.
* `Config.Preferred` : what that means for the configuration.
* `Config.environment_wins` : **the environment has precedence over the file.**
-/

namespace Courier

namespace EnvFile

/-! ### What a file adds -/

/-- The assignments in lines, up to the first that cannot be read. -/
def Progress.assignments (p : Progress) : List (Option (List Char)) → List (String × String)
  | [] => []
  | none :: _ => []
  | some line :: rest =>
    match parseLine p.lookup line with
    | .blank => p.assignments rest
    | .assignment name value => (name, value) :: (p.assign name value).assignments rest
    | .unreadable => []

/-- The assignments in a file that is read in an environment. -/
def assignments (env : Environment) (file : Bytes) : List (String × String) :=
  (Progress.mk env []).assignments (logicalLines file)

/-- The assignments to names that are not known, the first to each. -/
def fresh (known : List String) : List (String × String) → List (String × String)
  | [] => []
  | a :: rest => if a.1 ∈ known then fresh known rest else a :: fresh (known ++ [a.1]) rest

variable {known : List String} {a b : String × String} {as before after : List (String × String)}

theorem fresh_cons_of_mem (h : a.1 ∈ known) : fresh known (a :: as) = fresh known as := if_pos h

theorem fresh_cons_of_not_mem (h : a.1 ∉ known) :
    fresh known (a :: as) = a :: fresh (known ++ [a.1]) as := if_neg h

/-- Lines add the assignments to names that have no value. -/
theorem readLines_eq (p : Progress) (lines : List (Option (List Char))) :
    p.readLines lines = p.env ++ fresh (p.env.map Prod.fst) (p.assignments lines) := by
  induction lines generalizing p with
  | nil => exact (List.append_nil p.env).symm
  | cons line lines ih =>
    cases line with
    | none => exact (List.append_nil p.env).symm
    | some line =>
      rw [Progress.readLines, Progress.assignments]
      cases parseLine p.lookup line with
      | blank => exact ih p
      | unreadable => exact (List.append_nil p.env).symm
      | assignment name value =>
        refine (ih (p.assign name value)).trans ?_
        by_cases hname : name ∈ p.env.map Prod.fst
        · have henv : (p.assign name value).env = p.env :=
            if_pos (Keyed.isSome_lookup_iff.2 hname)
          rw [henv, fresh_cons_of_mem (a := (name, value)) hname]
        · have henv : (p.assign name value).env = p.env ++ [(name, value)] :=
            if_neg fun h => hname (Keyed.isSome_lookup_iff.1 h)
          rw [henv, fresh_cons_of_not_mem (a := (name, value)) hname, List.map_append,
            List.append_assoc]
          rfl

theorem apply_eq (env : Environment) (file : Bytes) :
    apply env file = env ++ fresh (env.map Prod.fst) (assignments env file) :=
  readLines_eq _ _

theorem fresh_sublist (known : List String) (as : List (String × String)) :
    (fresh known as).Sublist as := by
  induction as generalizing known with
  | nil => exact List.Sublist.refl []
  | cons a as ih =>
    by_cases h : a.1 ∈ known
    · rw [fresh_cons_of_mem h]
      exact (ih known).cons a
    · rw [fresh_cons_of_not_mem h]
      exact (ih (known ++ [a.1])).cons_cons a

theorem fresh_eq_nil (h : ∀ a ∈ as, a.1 ∈ known) : fresh known as = [] := by
  induction as with
  | nil => rfl
  | cons a as ih =>
    obtain ⟨hfirst, hrest⟩ := List.forall_mem_cons.1 h
    rw [fresh_cons_of_mem hfirst]
    exact ih hrest

theorem not_mem_append_singleton {name name' : String} (h : name ∉ known) (hne : name' ≠ name) :
    name ∉ known ++ [name'] := fun hmem =>
  (List.mem_append.1 hmem).elim h fun hmem => hne (List.mem_singleton.1 hmem).symm

/-- The first assignment to a name that is not known is added. -/
theorem mem_fresh_of_first (h : a.1 ∉ known) (hfirst : ∀ b ∈ before, b.1 ≠ a.1) :
    a ∈ fresh known (before ++ a :: after) := by
  induction before generalizing known with
  | nil =>
    rw [List.nil_append, fresh_cons_of_not_mem h]
    exact List.mem_cons_self
  | cons b before ih =>
    obtain ⟨hb, hbefore⟩ := List.forall_mem_cons.1 hfirst
    rw [List.cons_append]
    by_cases hknown : b.1 ∈ known
    · rw [fresh_cons_of_mem hknown]
      exact ih h hbefore
    · rw [fresh_cons_of_not_mem hknown]
      exact List.mem_cons_of_mem b (ih (not_mem_append_singleton h hb) hbefore)

/-- With an assignment to a name that is not known there is a first one, which is added. -/
theorem exists_mem_fresh (ha : a ∈ as) (h : a.1 ∉ known) : ∃ b ∈ fresh known as, b.1 = a.1 := by
  induction as generalizing known with
  | nil => cases ha
  | cons b as ih =>
    by_cases hknown : b.1 ∈ known
    · have hne : a ≠ b := fun heq => h (heq ▸ hknown)
      rw [fresh_cons_of_mem hknown]
      exact ih (List.mem_of_ne_of_mem hne ha) h
    · rw [fresh_cons_of_not_mem hknown]
      by_cases hname : b.1 = a.1
      · exact ⟨b, List.mem_cons_self, hname⟩
      · have hne : a ≠ b := fun heq => hname (heq ▸ rfl)
        obtain ⟨b', hb', hname'⟩ :=
          ih (List.mem_of_ne_of_mem hne ha) (not_mem_append_singleton h hname)
        exact ⟨b', List.mem_cons_of_mem b hb', hname'⟩

/-! ### The variables afterwards -/

section Apply

variable {env : Environment} {file : Bytes} {v : String × String} {name : String}

/-- A file does not alter a variable. -/
theorem get?_apply_of_mem (h : name ∈ env.map Prod.fst) :
    (apply env file).get? name = env.get? name := by
  rw [apply_eq, Environment.get?, List.lookup_append,
    Option.or_of_isSome (Keyed.isSome_lookup_iff.2 h)]
  rfl

theorem mem_apply_of_mem (h : v ∈ env) : v ∈ apply env file := by
  rw [apply_eq]
  exact List.mem_append_left _ h

/-- A file adds nothing but its assignments. -/
theorem mem_or_mem_of_mem_apply (h : v ∈ apply env file) : v ∈ env ∨ v ∈ assignments env file := by
  rw [apply_eq] at h
  exact (List.mem_append.1 h).imp_right (fresh_sublist _ _).mem

/-- A file adds its first assignment to a name that is not set. -/
theorem mem_apply_of_first (hfile : assignments env file = before ++ a :: after)
    (h : a.1 ∉ env.map Prod.fst) (hfirst : ∀ b ∈ before, b.1 ≠ a.1) : a ∈ apply env file := by
  rw [apply_eq, hfile]
  exact List.mem_append_right _ (mem_fresh_of_first h hfirst)

/-- A file whose names are all set changes nothing. -/
theorem apply_eq_self (h : ∀ a ∈ assignments env file, a.1 ∈ env.map Prod.fst) :
    apply env file = env := by
  rw [apply_eq, fresh_eq_nil h, List.append_nil]

end Apply

end EnvFile

namespace Config

open EnvFile

/-! ### The configuration -/

variable {env : Environment} {file : Bytes} {v w : String × String} {f : Field}

theorem Names.congr (h : Names v f) (hname : w.1 = v.1) : Names w f := by
  rw [Names, hname]
  exact h

/-- A variable that names a field which no variable of an environment names is not set there. -/
theorem not_mem_names (hf : Names w f) (henv : ∀ v ∈ env, ¬ Names v f) :
    w.1 ∉ env.map Prod.fst := by
  intro hmem
  obtain ⟨v, hv, hname⟩ := List.mem_map.1 hmem
  exact henv v hv (hf.congr hname)

/-- A file cannot name a field in another way than the environment does. -/
theorem not_described_of_contested {c : Config} (ha : w ∈ assignments env file)
    (hname : w.1 ∉ env.map Prod.fst) (hw : Names w f) (hv : v ∈ env) (hf : Names v f) :
    ¬ Described (apply env file) c := by
  intro h
  obtain ⟨b, hb, heq⟩ := exists_mem_fresh ha hname
  have honce := h.once
  rw [apply_eq] at honce
  -- the variable of the environment and the first assignment to the name are two for one field
  exact (List.pairwise_append.1 honce).2.2 v hv b hb f hf (hw.congr heq)

/-- The environment has precedence over a file. -/
structure Preferred (env : Environment) (file : Bytes) : Prop where
  /-- The file adds the assignments to names that are not set, the first to each. -/
  merged : apply env file = env ++ fresh (env.map Prod.fst) (assignments env file)
  /-- No variable of the environment is altered. -/
  kept : ∀ name ∈ env.map Prod.fst, (apply env file).get? name = env.get? name
  /-- A field that the environment names has its value. -/
  own : ∀ c, load (apply env file) = .ok c → ∀ v ∈ env, ∀ f, Names v f →
    f.kind.Denotes v.2 (c.value f)
  /-- A field that only the file names has the value of the first assignment to it. -/
  filled : ∀ c, load (apply env file) = .ok c → ∀ before a after,
    assignments env file = before ++ a :: after → ∀ f, Names a f → (∀ b ∈ before, ¬ Names b f) →
      (∀ v ∈ env, ¬ Names v f) → f.kind.Denotes a.2 (c.value f)
  /-- A field that neither of them names is at its default. -/
  rest : ∀ c, load (apply env file) = .ok c → ∀ f, (∀ v ∈ env, ¬ Names v f) →
    (∀ a ∈ assignments env file, ¬ Names a f) → f.default? = some (c.value f)
  /-- Assignments to names that are set make no difference, not even to a failure. -/
  redundant : (∀ a ∈ assignments env file, a.1 ∈ env.map Prod.fst) →
    load (apply env file) = load env
  /-- With an assignment to a field that the environment names otherwise nothing is loaded. -/
  contested : ∀ a ∈ assignments env file, a.1 ∉ env.map Prod.fst → ∀ f, Names a f →
    (∃ v ∈ env, Names v f) → ∃ e, load (apply env file) = .error e

/-- **The environment has precedence over the file**, whatever is in them. -/
theorem environment_wins (env : Environment) (file : Bytes) : Preferred env file where
  merged := apply_eq env file
  kept _ hname := get?_apply_of_mem hname
  own c hload v hv := (load_eq_ok_iff.1 hload).1.given v (mem_apply_of_mem hv)
  filled c hload before a after hfile f ha hbefore henv := by
    have hfirst : ∀ b ∈ before, b.1 ≠ a.1 := fun b hb heq => hbefore b hb (ha.congr heq)
    have hadded := mem_apply_of_first hfile (not_mem_names ha henv) hfirst
    exact (load_eq_ok_iff.1 hload).1.given a hadded f ha
  rest c hload f henv hfile := by
    refine (load_eq_ok_iff.1 hload).1.other f fun v hv => ?_
    exact (mem_or_mem_of_mem_apply hv).elim (henv v) (hfile v)
  redundant h := by rw [apply_eq_self h]
  contested a ha hname f hf := by
    rintro ⟨v, hv, hvf⟩
    cases hload : load (apply env file) with
    | error e => exact ⟨e, rfl⟩
    | ok c =>
      exact absurd (load_eq_ok_iff.1 hload).1 (not_described_of_contested ha hname hf hv hvf)

/-- What is set is kept, and what is not is filled in. -/
example :
    load (apply [("RABBITMQ_URL", "amqp://localhost"), ("PREFETCH_COUNT", "3")]
        (Utf8.ofString "PREFETCH_COUNT=9\nWORKER_COUNT=2\n")) =
      .ok { standard "amqp://localhost" with prefetchCount := 3, workerCount := 2 } := by rfl

/-- A name in another case is a second variable for its field. -/
example :
    load (apply [("RABBITMQ_URL", "amqp://localhost"), ("PREFETCH_COUNT", "3")]
        (Utf8.ofString "Prefetch_Count=9\n")) =
      .error (.environment (.duplicate .prefetchCount)) := by rfl

end Config

end Courier
