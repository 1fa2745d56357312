import Courier.Config.Environment
import Courier.Proofs.Text.Unsigned

/-!
# What is loaded from an environment

An environment gives a configuration if its variables say enough: no two of them name one field, the
address of the broker is named, and what names an integer stands for one of the width of its field.
The configuration is what they say, and everything else is at its default, so that neither the order
of the variables nor those that name no field make a difference.

* `Config.value`, `Config.Field.default?` : a configuration and the defaults, field by field.
* `Config.Kind.Denotes` : the texts that stand for a value.
* `Config.Described` : the configuration that an environment describes.
* `Config.WellFormed` : what is asked of an environment.
* `Config.load_eq_ok_iff` : what is loaded is what is described, if it is valid.
* `Config.loads_wellFormed` : **a configuration is loaded exactly from well-formed environments.**
-/

namespace Courier

namespace Config

/-! ### Fields -/

/-- The value of a configuration for a field. -/
def value (c : Config) : (f : Field) → f.kind.Value
  | .rabbitmqUrl => c.rabbitmqUrl
  | .mainExchange => c.mainExchange
  | .retryExchange => c.retryExchange
  | .deadLetterExchange => c.deadLetterExchange
  | .mainQueue => c.mainQueue
  | .retryQueue => c.retryQueue
  | .deadLetterQueue => c.deadLetterQueue
  | .mainRoutingKey => c.mainRoutingKey
  | .retryRoutingKey => c.retryRoutingKey
  | .deadLetterRoutingKey => c.deadLetterRoutingKey
  | .workerCount => c.workerCount
  | .prefetchCount => c.prefetchCount
  | .retryDelayMs => c.retryDelayMs
  | .maxRetries => c.maxRetries
  | .defaultPushToken => c.defaultPushToken
  | .deliveryTimeoutMs => c.deliveryTimeoutMs
  | .fcmProjectId => c.fcmProjectId
  | .fcmBaseUrl => c.fcmBaseUrl
  | .serverPort => c.serverPort
  | .publishBuffer => c.publishBuffer
  | .shutdownGraceMs => c.shutdownGraceMs

/-- The default of a field, which only the address of the broker does not have. -/
def Field.default? : (f : Field) → Option f.kind.Value
  | .rabbitmqUrl => none
  | .mainExchange => some "push_notifs"
  | .retryExchange => some "retry-notifs_ex"
  | .deadLetterExchange => some "push_notifs_dlx"
  | .mainQueue => some "push_notifs_queue"
  | .retryQueue => some "retry-notifs_queue"
  | .deadLetterQueue => some "push_notifs_dlq"
  | .mainRoutingKey => some "notifs"
  | .retryRoutingKey => some "retried-messages"
  | .deadLetterRoutingKey => some "failed-messages"
  | .workerCount => some (5 : UInt64)
  | .prefetchCount => some (1 : UInt16)
  | .retryDelayMs => some (5000 : UInt64)
  | .maxRetries => some (5 : UInt32)
  | .defaultPushToken => some (none : Option String)
  | .deliveryTimeoutMs => some (10000 : UInt64)
  | .fcmProjectId => some ""
  | .fcmBaseUrl => some "https://fcm.googleapis.com"
  | .serverPort => some (8080 : UInt16)
  | .publishBuffer => some (256 : UInt64)
  | .shutdownGraceMs => some (30000 : UInt64)

/-- A configuration is known by its values. -/
theorem eq_of_value {c c' : Config} (h : ∀ f, c.value f = c'.value f) : c = c' := by
  obtain ⟨⟩ := c
  obtain ⟨⟩ := c'
  simp only [mk.injEq]
  exact ⟨h .rabbitmqUrl, h .mainExchange, h .retryExchange, h .deadLetterExchange, h .mainQueue,
    h .retryQueue, h .deadLetterQueue, h .mainRoutingKey, h .retryRoutingKey,
    h .deadLetterRoutingKey, h .workerCount, h .prefetchCount, h .retryDelayMs, h .maxRetries,
    h .defaultPushToken, h .deliveryTimeoutMs, h .fcmProjectId, h .fcmBaseUrl, h .serverPort,
    h .publishBuffer, h .shutdownGraceMs⟩

theorem or_default? {d : Draft} {c : Config} (h : ofDraft? d = some c) (f : Field) :
    (d f).or f.default? = some (c.value f) := by
  obtain ⟨url, hurl, rfl⟩ := Option.map_eq_some_iff.1 h
  cases f with
  | rabbitmqUrl => rw [hurl]; rfl
  | _ => exact Option.or_some

/-- A draft becomes the configuration with its values and the defaults. -/
theorem ofDraft?_eq_some_iff {d : Draft} {c : Config} :
    ofDraft? d = some c ↔ ∀ f, (d f).or f.default? = some (c.value f) := by
  refine ⟨or_default?, fun h => ?_⟩
  obtain ⟨c', hc'⟩ : ∃ c', ofDraft? d = some c' := by
    have hurl := h .rabbitmqUrl
    rw [Field.default?, Option.or_none] at hurl
    exact ⟨_, Option.map_eq_some_iff.2 ⟨_, hurl, rfl⟩⟩
  obtain rfl : c' = c := eq_of_value fun f => Option.some.inj ((or_default? hc' f).symm.trans (h f))
  exact hc'

theorem Field.ofName?_name (f : Field) : ofName? f.name = some f := by cases f <;> rfl

theorem Field.ofName?_eq_some_iff {name : String} {f : Field} :
    ofName? name = some f ↔ name = f.name := by
  constructor
  · intro h
    rw [ofName?] at h
    have hfound := List.find?_some h
    exact (eq_of_beq hfound).symm
  · rintro rfl
    exact f.ofName?_name

/-! ### Values -/

/-- Whether a text stands for a value of a kind. -/
def Kind.Denotes : (k : Kind) → String → k.Value → Prop
  | .text, s, (value : String) => value = s
  | .optionalText, s, (value : Option String) => value = some s
  | .word16, s, (value : UInt16) => Unsigned.Writes s value.toNat
  | .word32, s, (value : UInt32) => Unsigned.Writes s value.toNat
  | .word64, s, (value : UInt64) => Unsigned.Writes s value.toNat

/-- What the integers of a kind are below. -/
def Kind.bound? : Kind → Option Nat
  | .text | .optionalText => none
  | .word16 => some 65536
  | .word32 => some 4294967296
  | .word64 => some 18446744073709551616

/-- A word is read from what stands for it. -/
theorem map_read_eq_ok_iff {α : Type} {bound : Nat} {ofNat : Nat → α} {toNat : α → Nat}
    (hlt : ∀ value, toNat value < bound) (hof : ∀ value, ofNat (toNat value) = value)
    (hto : ∀ n < bound, toNat (ofNat n) = n) {s : String} {value : α} :
    (Unsigned.read bound s).map ofNat = .ok value ↔ Unsigned.Writes s (toNat value) := by
  have hbound : 0 < bound := Nat.zero_lt_of_lt (hlt value)
  constructor
  · intro h
    cases hread : Unsigned.read bound s with
    | error fault =>
      rw [hread] at h
      cases h
    | ok n =>
      rw [hread] at h
      cases h
      obtain ⟨hn, hwrites⟩ := (Unsigned.read_eq_ok_iff hbound).1 hread
      rwa [hto n hn]
  · intro h
    rw [(Unsigned.read_eq_ok_iff hbound).2 ⟨hlt value, h⟩]
    exact congrArg Except.ok (hof value)

/-- A value is read from what stands for it. -/
theorem Kind.ofText_eq_ok_iff {k : Kind} {s : String} {value : k.Value} :
    k.ofText s = .ok value ↔ k.Denotes s value := by
  cases k with
  | text => exact (Except.ok.injEq s value).to_iff.trans eq_comm
  | optionalText => exact (Except.ok.injEq (some s) value).to_iff.trans eq_comm
  | word16 =>
    exact map_read_eq_ok_iff UInt16.toNat_lt (fun _ => UInt16.ofNat_toNat)
      fun _ h => UInt16.toNat_ofNat_of_lt' h
  | word32 =>
    exact map_read_eq_ok_iff UInt32.toNat_lt (fun _ => UInt32.ofNat_toNat)
      fun _ h => UInt32.toNat_ofNat_of_lt' h
  | word64 =>
    exact map_read_eq_ok_iff UInt64.toNat_lt (fun _ => UInt64.ofNat_toNat)
      fun _ h => UInt64.toNat_ofNat_of_lt' h

/-- A text stands for one value. -/
theorem Kind.Denotes.unique {k : Kind} {s : String} {value value' : k.Value}
    (h : k.Denotes s value) (h' : k.Denotes s value') : value = value' :=
  Except.ok.inj ((Kind.ofText_eq_ok_iff.2 h).symm.trans (Kind.ofText_eq_ok_iff.2 h'))

/-- The texts that stand for a word are those that stand for an integer which fits. -/
theorem exists_writes_iff {α : Type} {bound : Nat} {ofNat : Nat → α} {toNat : α → Nat}
    (hlt : ∀ value, toNat value < bound) (hto : ∀ n < bound, toNat (ofNat n) = n) {s : String} :
    (∃ value, Unsigned.Writes s (toNat value)) ↔
      ∀ b, some bound = some b → ∃ n < b, Unsigned.Writes s n := by
  constructor
  · rintro ⟨value, hvalue⟩ _ ⟨⟩
    exact ⟨toNat value, hlt value, hvalue⟩
  · intro h
    obtain ⟨n, hn, hwrites⟩ := h bound rfl
    exact ⟨ofNat n, by rwa [hto n hn]⟩

/-- The texts that stand for a value are all, or those of the integers below the bound. -/
theorem Kind.exists_denotes_iff {k : Kind} {s : String} :
    (∃ value, k.Denotes s value) ↔
      ∀ bound, k.bound? = some bound → ∃ n < bound, Unsigned.Writes s n := by
  cases k with
  | text => exact ⟨fun _ => nofun, fun _ => ⟨s, rfl⟩⟩
  | optionalText => exact ⟨fun _ => nofun, fun _ => ⟨some s, rfl⟩⟩
  | word16 => exact exists_writes_iff UInt16.toNat_lt fun _ h => UInt16.toNat_ofNat_of_lt' h
  | word32 => exact exists_writes_iff UInt32.toNat_lt fun _ h => UInt32.toNat_ofNat_of_lt' h
  | word64 => exact exists_writes_iff UInt64.toNat_lt fun _ h => UInt64.toNat_ofNat_of_lt' h

/-! ### Variables -/

/-- A variable names a field, in whatever case. -/
def Names (v : String × String) (f : Field) : Prop := Environment.lower v.1 = f.name

instance (v : String × String) (f : Field) : Decidable (Names v f) :=
  inferInstanceAs (Decidable (Environment.lower v.1 = f.name))

/-- Whether a variable names some field. -/
def namesField (v : String × String) : Bool := (Field.ofName? (Environment.lower v.1)).isSome

variable {env env' : Environment} {v w : String × String} {d d' : Draft} {f g : Field}

theorem Names.unique (h : Names v f) (h' : Names v g) : f = g :=
  Option.some.inj ((Field.ofName?_eq_some_iff.2 h).symm.trans (Field.ofName?_eq_some_iff.2 h'))

theorem namesField_iff : namesField v = true ↔ ∃ f, Names v f :=
  Option.isSome_iff_exists.trans (exists_congr fun _ => Field.ofName?_eq_some_iff)

/-- No two variables name one field. -/
def Once (env : Environment) : Prop := env.Pairwise fun v w => ∀ f, Names v f → ¬ Names w f

/-! ### Drafts -/

theorem Draft.set_self (d : Draft) (f : Field) (value : f.kind.Value) :
    d.set f value f = some value := dif_pos rfl

theorem Draft.set_of_ne (d : Draft) (value : f.kind.Value) (h : f ≠ g) : d.set f value g = d g :=
  dif_neg h

/-- A draft becomes another one with the values of some variables. -/
structure Drafted (env : Environment) (d d' : Draft) : Prop where
  once : Once env
  free : ∀ v ∈ env, ∀ f, Names v f → d f = none
  given : ∀ v ∈ env, ∀ f, Names v f → ∃ value, d' f = some value ∧ f.kind.Denotes v.2 value
  other : ∀ f, (∀ v ∈ env, ¬ Names v f) → d' f = d f

theorem drafted_nil : Drafted [] d d' ↔ d = d' := by
  constructor
  · intro h
    exact funext fun f => (h.other f nofun).symm
  · rintro rfl
    exact ⟨List.Pairwise.nil, nofun, nofun, fun _ _ => rfl⟩

theorem drafted_cons_of_not_names (h : ∀ f, ¬ Names v f) :
    Drafted (v :: env) d d' ↔ Drafted env d d' := by
  constructor
  · intro hdraft
    refine ⟨(List.pairwise_cons.1 hdraft.once).2, fun w hw => hdraft.free w (.tail _ hw),
      fun w hw => hdraft.given w (.tail _ hw), fun f hf => hdraft.other f ?_⟩
    exact List.forall_mem_cons.2 ⟨h f, hf⟩
  · intro hdraft
    exact {
      once := List.pairwise_cons.2 ⟨fun _ _ f hv => absurd hv (h f), hdraft.once⟩
      free := List.forall_mem_cons.2 ⟨fun f hv => absurd hv (h f), hdraft.free⟩
      given := List.forall_mem_cons.2 ⟨fun f hv => absurd hv (h f), hdraft.given⟩
      other := fun f hf => hdraft.other f (List.forall_mem_cons.1 hf).2 }

theorem drafted_cons {value : f.kind.Value} (hv : Names v f) (hfree : d f = none)
    (hvalue : f.kind.Denotes v.2 value) :
    Drafted (v :: env) d d' ↔ Drafted env (d.set f value) d' := by
  constructor
  · intro h
    obtain ⟨hfirst, hrest⟩ := List.pairwise_cons.1 h.once
    refine ⟨hrest, fun w hw g hg => ?_, fun w hw => h.given w (.tail _ hw), fun g hg => ?_⟩
    · have hne : f ≠ g := fun heq => hfirst w hw f hv (heq ▸ hg)
      rw [Draft.set_of_ne d value hne]
      exact h.free w (.tail _ hw) g hg
    · by_cases heq : f = g
      · subst heq
        obtain ⟨value', hdraft, hvalue'⟩ := h.given v List.mem_cons_self f hv
        rw [hdraft, Draft.set_self, hvalue.unique hvalue']
      · rw [Draft.set_of_ne d value heq]
        exact h.other g (List.forall_mem_cons.2 ⟨fun hg' => heq (hv.unique hg'), hg⟩)
  · intro h
    have hset (g : Field) (hg : d.set f value g = none) : f ≠ g ∧ d g = none := by
      have hne : f ≠ g := by
        rintro rfl
        cases (Draft.set_self d f value).symm.trans hg
      exact ⟨hne, (Draft.set_of_ne d value hne).symm.trans hg⟩
    -- the other variables do not name the field again
    have hfirst : ∀ w ∈ env, ¬ Names w f := fun w hw hf => (hset f (h.free w hw f hf)).1 rfl
    refine ⟨?_, ?_, ?_, fun g hg => ?_⟩
    · exact List.pairwise_cons.2 ⟨fun w hw g hg => hv.unique hg ▸ hfirst w hw, h.once⟩
    · refine List.forall_mem_cons.2 ⟨fun g hg => ?_, fun w hw g hg => (hset g (h.free w hw g hg)).2⟩
      obtain rfl := hv.unique hg
      exact hfree
    · refine List.forall_mem_cons.2 ⟨fun g hg => ?_, h.given⟩
      obtain rfl := hv.unique hg
      exact ⟨value, (h.other f hfirst).trans (Draft.set_self d f value), hvalue⟩
    · obtain ⟨hhead, htail⟩ := List.forall_mem_cons.1 hg
      have hne : f ≠ g := fun heq => hhead (heq ▸ hv)
      rw [h.other g htail, Draft.set_of_ne d value hne]

theorem addVariable_of_not_names (h : ∀ f, ¬ Names v f) : addVariable d v = .ok d := by
  have hname : Field.ofName? (Environment.lower v.1) = none :=
    Option.eq_none_iff_forall_ne_some.2 fun f hf => h f (Field.ofName?_eq_some_iff.1 hf)
  rw [addVariable, hname]

theorem addVariable_of_isSome (hv : Names v f) (h : (d f).isSome) :
    addVariable d v = .error (.duplicate f) := by
  simp only [addVariable, Field.ofName?_eq_some_iff.2 hv, if_pos h]

theorem addVariable_of_ok {value : f.kind.Value} (hv : Names v f) (hfree : d f = none)
    (hvalue : f.kind.ofText v.2 = .ok value) : addVariable d v = .ok (d.set f value) := by
  have h : ¬ (d f).isSome := Option.not_isSome_iff_eq_none.2 hfree
  simp only [addVariable, Field.ofName?_eq_some_iff.2 hv, if_neg h, hvalue]

theorem addVariable_of_error {fault : Unsigned.Fault} (hv : Names v f) (hfree : d f = none)
    (hvalue : f.kind.ofText v.2 = .error fault) :
    addVariable d v = .error (.unreadable v.1 v.2 fault) := by
  have h : ¬ (d f).isSome := Option.not_isSome_iff_eq_none.2 hfree
  simp only [addVariable, Field.ofName?_eq_some_iff.2 hv, if_neg h, hvalue]

/-- The variables are read into a draft if this is a draft with their values. -/
theorem foldlM_addVariable_eq_ok_iff :
    env.foldlM addVariable d = .ok d' ↔ Drafted env d d' := by
  induction env generalizing d with
  | nil => exact (Except.ok.injEq d d').to_iff.trans drafted_nil.symm
  | cons v env ih =>
    rw [List.foldlM_cons]
    by_cases hnamed : ∃ f, Names v f
    · obtain ⟨f, hv⟩ := hnamed
      by_cases hfree : d f = none
      · cases hvalue : f.kind.ofText v.2 with
        | ok value =>
          rw [addVariable_of_ok hv hfree hvalue]
          exact ih.trans (drafted_cons hv hfree (Kind.ofText_eq_ok_iff.1 hvalue)).symm
        | error fault =>
          rw [addVariable_of_error hv hfree hvalue]
          refine iff_of_false nofun fun h => ?_
          obtain ⟨value, -, hdenotes⟩ := h.given v List.mem_cons_self f hv
          cases hvalue.symm.trans (Kind.ofText_eq_ok_iff.2 hdenotes)
      · rw [addVariable_of_isSome hv (Option.isSome_iff_ne_none.2 hfree)]
        exact iff_of_false nofun fun h => hfree (h.free v List.mem_cons_self f hv)
    · have hnone : ∀ f, ¬ Names v f := not_exists.1 hnamed
      rw [addVariable_of_not_names hnone]
      exact ih.trans (drafted_cons_of_not_names hnone).symm

/-! ### The configuration that is described -/

/-- A configuration is what an environment says, and at the defaults elsewhere. -/
structure Described (env : Environment) (c : Config) : Prop where
  once : Once env
  given : ∀ v ∈ env, ∀ f, Names v f → f.kind.Denotes v.2 (c.value f)
  other : ∀ f, (∀ v ∈ env, ¬ Names v f) → f.default? = some (c.value f)

variable {c c' : Config}

theorem Described.unique (h : Described env c) (h' : Described env c') : c = c' := by
  refine eq_of_value fun f => ?_
  by_cases hnamed : ∃ v ∈ env, Names v f
  · obtain ⟨v, hv, hf⟩ := hnamed
    exact (h.given v hv f hf).unique (h'.given v hv f hf)
  · have hnone : ∀ v ∈ env, ¬ Names v f := fun v hv hf => hnamed ⟨v, hv, hf⟩
    exact Option.some.inj ((h.other f hnone).symm.trans (h'.other f hnone))

/-- Neither the order of the variables nor those that name no field matter. -/
theorem Described.perm (h : Described env c) (henv : env'.Perm env) : Described env' c where
  once := (henv.pairwise_iff fun hvw f hw hv => hvw f hv hw).2 h.once
  given v hv := h.given v (henv.mem_iff.1 hv)
  other f hf := h.other f fun v hv => hf v (henv.mem_iff.2 hv)

/-- What is made of a draft with the values of some variables is what they describe. -/
theorem Drafted.described (hd : Drafted env .empty d) (hc : ofDraft? d = some c) :
    Described env c := by
  refine ⟨hd.once, fun v hv f hf => ?_, fun f hf => ?_⟩
  · obtain ⟨value, hvalue, hdenotes⟩ := hd.given v hv f hf
    have hconfig := or_default? hc f
    rw [hvalue, Option.some_or] at hconfig
    exact Option.some.inj hconfig ▸ hdenotes
  · have hconfig := or_default? hc f
    rwa [hd.other f hf, Draft.empty, Option.none_or] at hconfig

/-- A configuration is made of an environment by way of a draft. -/
theorem ofEnvironment_eq_ok_iff_drafted :
    ofEnvironment env = .ok c ↔ ∃ d, Drafted env .empty d ∧ ofDraft? d = some c := by
  simp only [← foldlM_addVariable_eq_ok_iff]
  unfold ofEnvironment
  constructor
  · intro h
    split at h
    · cases h
    · next d hd =>
      split at h
      · next hc =>
        cases h
        exact ⟨d, hd, hc⟩
      · cases h
  · rintro ⟨d, hd, hc⟩
    rw [hd]
    simp only [hc]

/-- The values that variables give, of those of a configuration. -/
def draftOf (env : Environment) (c : Config) : Draft := fun f =>
  if ∃ v ∈ env, Names v f then some (c.value f) else none

theorem draftOf_of_named (h : ∃ v ∈ env, Names v f) : draftOf env c f = some (c.value f) :=
  if_pos h

theorem draftOf_of_not_named (h : ∀ v ∈ env, ¬ Names v f) : draftOf env c f = none :=
  if_neg fun ⟨v, hv, hf⟩ => h v hv hf

theorem Described.drafted (h : Described env c) : Drafted env .empty (draftOf env c) where
  once := h.once
  free _ _ _ _ := rfl
  given v hv f hf := ⟨c.value f, draftOf_of_named ⟨v, hv, hf⟩, h.given v hv f hf⟩
  other _ hf := draftOf_of_not_named hf

/-- The defaults complete the draft. -/
theorem Described.ofDraft?_draftOf (h : Described env c) :
    ofDraft? (draftOf env c) = some c := by
  refine ofDraft?_eq_some_iff.2 fun f => ?_
  by_cases hf : ∃ v ∈ env, Names v f
  · rw [draftOf_of_named hf, Option.some_or]
  · have hnone : ∀ v ∈ env, ¬ Names v f := fun v hv hf' => hf ⟨v, hv, hf'⟩
    rw [draftOf_of_not_named hnone, Option.none_or]
    exact h.other f hnone

/-- The configuration in an environment is the one that is described. -/
theorem ofEnvironment_eq_ok_iff : ofEnvironment env = .ok c ↔ Described env c := by
  rw [ofEnvironment_eq_ok_iff_drafted]
  constructor
  · rintro ⟨d, hd, hc⟩
    exact hd.described hc
  · intro h
    exact ⟨draftOf env c, h.drafted, h.ofDraft?_draftOf⟩

/-- What is loaded is what is described, if the service may run with it. -/
theorem load_eq_ok_iff : load env = .ok c ↔ Described env c ∧ c.Valid := by
  rw [← ofEnvironment_eq_ok_iff, ← validate_eq_ok_iff]
  unfold load
  constructor
  · intro h
    split at h
    · cases h
    · next hc =>
      split at h
      · next hvalid =>
        cases h
        exact ⟨hc, hvalid⟩
      · cases h
  · rintro ⟨hc, hvalid⟩
    rw [hc]
    simp only [hvalid]

/-! ### The environments from which a configuration is loaded -/

/-- What is asked of an environment. -/
structure WellFormed (env : Environment) : Prop where
  /-- No two variables name one field. -/
  once : Once env
  /-- The address of the broker is named. -/
  address : ∃ v ∈ env, Names v .rabbitmqUrl
  /-- What names an integer stands for one that is as wide as the field. -/
  integers : ∀ v ∈ env, ∀ f, Names v f → ∀ bound, f.kind.bound? = some bound →
    ∃ n < bound, Unsigned.Writes v.2 n
  /-- The service may run with the configuration. -/
  valid : ∀ c, Described env c → c.Valid

/-- There is a draft with the values of variables that name different fields and have values. -/
theorem exists_drafted (honce : Once env) (hfree : ∀ v ∈ env, ∀ f, Names v f → d f = none)
    (hvalues : ∀ v ∈ env, ∀ f, Names v f → ∃ value, f.kind.Denotes v.2 value) :
    ∃ d', Drafted env d d' := by
  induction env generalizing d with
  | nil => exact ⟨d, drafted_nil.2 rfl⟩
  | cons v env ih =>
    obtain ⟨hfirst, hrest⟩ := List.pairwise_cons.1 honce
    obtain ⟨hfreeFirst, hfreeRest⟩ := List.forall_mem_cons.1 hfree
    obtain ⟨hvaluesFirst, hvaluesRest⟩ := List.forall_mem_cons.1 hvalues
    by_cases hnamed : ∃ f, Names v f
    · obtain ⟨f, hv⟩ := hnamed
      obtain ⟨value, hvalue⟩ := hvaluesFirst f hv
      have hset : ∀ w ∈ env, ∀ g, Names w g → d.set f value g = none := by
        intro w hw g hg
        have hne : f ≠ g := fun heq => hfirst w hw f hv (heq ▸ hg)
        rw [Draft.set_of_ne d value hne]
        exact hfreeRest w hw g hg
      obtain ⟨d', hd'⟩ := ih hrest hset hvaluesRest
      exact ⟨d', (drafted_cons hv (hfreeFirst f hv) hvalue).2 hd'⟩
    · obtain ⟨d', hd'⟩ := ih hrest hfreeRest hvaluesRest
      exact ⟨d', (drafted_cons_of_not_names (not_exists.1 hnamed)).2 hd'⟩

theorem WellFormed.exists_described (h : WellFormed env) : ∃ c, Described env c := by
  obtain ⟨d, hd⟩ : ∃ d, Drafted env .empty d :=
    exists_drafted h.once (fun _ _ _ _ => rfl) fun v hv f hf =>
      Kind.exists_denotes_iff.2 (h.integers v hv f hf)
  obtain ⟨v, hv, haddress⟩ := h.address
  obtain ⟨url, hurl, -⟩ := hd.given v hv _ haddress
  exact ⟨_, hd.described (Option.map_eq_some_iff.2 ⟨url, hurl, rfl⟩)⟩

theorem exists_load_iff : (∃ c, load env = .ok c) ↔ WellFormed env := by
  constructor
  · rintro ⟨c, hload⟩
    obtain ⟨hc, hvalid⟩ := load_eq_ok_iff.1 hload
    refine ⟨hc.once, ?_, fun v hv f hf => ?_, fun c' hc' => hc.unique hc' ▸ hvalid⟩
    · refine Decidable.byContradiction fun hnone => ?_
      -- there is no default to take its place
      cases hc.other .rabbitmqUrl fun v hv hf => hnone ⟨v, hv, hf⟩
    · exact Kind.exists_denotes_iff.1 ⟨c.value f, hc.given v hv f hf⟩
  · intro h
    obtain ⟨c, hc⟩ := h.exists_described
    exact ⟨c, load_eq_ok_iff.2 ⟨hc, h.valid c hc⟩⟩

/-- Variables that name no field are not read. -/
theorem foldlM_filter_namesField :
    (env.filter namesField).foldlM addVariable d = env.foldlM addVariable d := by
  induction env generalizing d with
  | nil => rfl
  | cons v env ih =>
    by_cases hnamed : namesField v = true
    · rw [List.filter_cons_of_pos hnamed, List.foldlM_cons, List.foldlM_cons]
      exact congrArg _ (funext fun _ => ih)
    · have hnone : ∀ f, ¬ Names v f := fun f hf => hnamed (namesField_iff.2 ⟨f, hf⟩)
      rw [List.filter_cons_of_neg hnamed, List.foldlM_cons, addVariable_of_not_names hnone]
      exact ih

/-- **Loading succeeds exactly on the well-formed environments.**  The result is valid and has the
value that is given for each field that is named, and the default of each other field.  Variables
that name no field make no difference, not even to a failure, and the order of the variables makes
none to what is loaded. -/
theorem loads_wellFormed (env : Environment) :
    ((∃ c, load env = .ok c) ↔ WellFormed env) ∧
      (∀ c, load env = .ok c ↔ Described env c ∧ c.Valid) ∧
      (∀ env', env'.filter namesField = env.filter namesField → load env' = load env) ∧
      ∀ env', env'.Perm env → ∀ c, load env' = .ok c ↔ load env = .ok c := by
  refine ⟨exists_load_iff, fun c => load_eq_ok_iff, fun env' henv => ?_, fun env' henv c => ?_⟩
  · have hdrafts : env'.foldlM addVariable .empty = env.foldlM addVariable .empty := by
      rw [← foldlM_filter_namesField, henv, foldlM_filter_namesField]
    simp only [load, ofEnvironment, hdrafts]
  · rw [load_eq_ok_iff, load_eq_ok_iff]
    exact and_congr_left fun _ => ⟨fun h => h.perm henv.symm, fun h => h.perm henv⟩

/-- The name of a field may be in any case and its integer have a sign and zeros, and neither the
order nor another variable makes a difference. -/
theorem loads_workers :
    load [("RABBITMQ_URL", "amqp://localhost"), ("Worker_Count", "+007")] =
        .ok { standard "amqp://localhost" with workerCount := 7 } ∧
      load [("Worker_Count", "+007"), ("RABBITMQ_URL", "amqp://localhost")] =
        .ok { standard "amqp://localhost" with workerCount := 7 } ∧
      load [("RABBITMQ_URL", "amqp://localhost"), ("PATH", "/bin"), ("Worker_Count", "+007")] =
        .ok { standard "amqp://localhost" with workerCount := 7 } := by
  have hload : load [("RABBITMQ_URL", "amqp://localhost"), ("Worker_Count", "+007")] =
      .ok { standard "amqp://localhost" with workerCount := 7 } := by rfl
  obtain ⟨-, -, hunrelated, horder⟩ :=
    loads_wellFormed [("RABBITMQ_URL", "amqp://localhost"), ("Worker_Count", "+007")]
  exact ⟨hload, (horder _ (List.Perm.swap _ _ _) _).2 hload, (hunrelated _ rfl).trans hload⟩

end Config

end Courier
