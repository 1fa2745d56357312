import Courier.Proofs.Lists
import Courier.Provider.Payload

/-!
# What the payload of a notification holds

Of the values under one key the reserved ones go first, then those of the metadata, then those of
the variables, and nothing else is left out.

* `UserId.IsHyphenated` : a user id in lower case with hyphens between its groups.
* `Provider.get?_dataOf` : **the further values by their precedence.**
* `Provider.Payload.Serves` : a payload that holds what a notification says, for a device.
* `Provider.payloadOf_serves` : so does the payload that is sent.
* `Provider.Carries.unique` : nothing else about the further values is left open.
-/

namespace Courier

/-! ### User ids -/

namespace UserId

/-- A user id in lower case, in groups of 8, 4, 4, 4 and 12 digits with hyphens between. -/
def IsHyphenated (u : UserId) (s : String) : Prop :=
  ∃ a b c d e : List Nibble, u.digits = a ++ (b ++ (c ++ (d ++ e))) ∧ a.length = 8 ∧
    b.length = 4 ∧ c.length = 4 ∧ d.length = 4 ∧ e.length = 12 ∧
    s.toList = a.map Hex.lower ++ '-' :: (b.map Hex.lower ++ '-' :: (c.map Hex.lower ++
      '-' :: (d.map Hex.lower ++ '-' :: e.map Hex.lower)))

/-- A hyphen comes behind a group. -/
theorem hyphenate_append {n : Nat} {ds : List Nibble} (h : ds.length = n) (groups : List Nat)
    (rest : List Char) :
    hyphenate (n :: groups) (ds.map Hex.lower ++ rest) =
      ds.map Hex.lower ++ '-' :: hyphenate groups rest := by
  have hlength : (ds.map Hex.lower).length = n := by rw [List.length_map, h]
  rw [hyphenate, List.take_left' hlength, List.drop_left' hlength]

/-- A user id consists of its groups. -/
theorem exists_groups (u : UserId) :
    ∃ a b c d e : List Nibble, u.digits = a ++ (b ++ (c ++ (d ++ e))) ∧ a.length = 8 ∧
      b.length = 4 ∧ c.length = 4 ∧ d.length = 4 ∧ e.length = 12 := by
  have hlength := u.length_eq
  refine ⟨u.digits.take 8, (u.digits.drop 8).take 4, ((u.digits.drop 8).drop 4).take 4,
    (((u.digits.drop 8).drop 4).drop 4).take 4, (((u.digits.drop 8).drop 4).drop 4).drop 4, ?_, ?_⟩
  · simp only [List.take_append_drop]
  · simp [hlength]

/-- The text of a user id is the one in this form. -/
theorem isHyphenated_iff {u : UserId} {s : String} : u.IsHyphenated s ↔ s = u.render := by
  have hchars : ∀ {a b c d e : List Nibble}, u.digits = a ++ (b ++ (c ++ (d ++ e))) →
      a.length = 8 → b.length = 4 → c.length = 4 → d.length = 4 →
      u.chars = a.map Hex.lower ++ '-' :: (b.map Hex.lower ++ '-' :: (c.map Hex.lower ++
        '-' :: (d.map Hex.lower ++ '-' :: e.map Hex.lower))) := by
    intro a b c d e hdigits ha hb hc hd
    rw [chars, hdigits, groups, List.map_append, hyphenate_append ha, List.map_append,
      hyphenate_append hb, List.map_append, hyphenate_append hc, List.map_append,
      hyphenate_append hd, hyphenate]
  constructor
  · rintro ⟨a, b, c, d, e, hdigits, ha, hb, hc, hd, -, hs⟩
    rw [render, hchars hdigits ha hb hc hd, ← hs, String.ofList_toList]
  · rintro rfl
    obtain ⟨a, b, c, d, e, hdigits, ha, hb, hc, hd, he⟩ := u.exists_groups
    refine ⟨a, b, c, d, e, hdigits, ha, hb, hc, hd, he, ?_⟩
    rw [render, String.toList_ofList, hchars hdigits ha hb hc hd]

end UserId

namespace Provider

/-! ### The further values -/

/-- What is under a key in a map as it is displayed, from either end. -/
theorem lookup_displayed (m : Metadata) (key : String) :
    (displayed m).reverse.lookup key = (m.get? key).map Scalar.display := by
  have hnodup : ((displayed m).map Prod.fst).Nodup := by
    have hkeys : (displayed m).map Prod.fst = m.entries.map Prod.fst := by
      simp [displayed]
    rw [hkeys]
    exact m.nodup_keys
  rw [lookup_reverse hnodup]
  exact lookup_map_snd Scalar.display m.entries key

/-- **The further values by their precedence.** -/
theorem get?_dataOf (n : Notification) (key : String) :
    (dataOf n).get? key = ((reserved n).lookup key).or
      (((n.metadata.get? key).or (n.values.details.get? key)).map Scalar.display) := by
  have hreserved : ((reserved n).map Prod.fst).Nodup := by
    simp only [reserved, List.map_cons, List.map_nil]
    decide
  have hempty : (Keyed.empty : Keyed String).get? key = none := rfl
  rw [dataOf, Keyed.ofList, Keyed.get?_insertAll, List.reverse_append, List.reverse_append,
    List.lookup_append, List.lookup_append, lookup_reverse hreserved, lookup_displayed,
    lookup_displayed, hempty, Option.or_none]
  cases n.metadata.get? key with
  | none => rfl
  | some s => rfl

/-- The keys whose values are fields of the notification. -/
def reservedKeys : List String := ["name", "link", "template_code", "user_id", "request_id"]

theorem keys_reserved (n : Notification) : (reserved n).map Prod.fst = reservedKeys := rfl

/-- Nothing goes before the value under a reserved key. -/
theorem get?_dataOf_of_reserved {n : Notification} {key value : String}
    (h : (reserved n).lookup key = some value) : (dataOf n).get? key = some value := by
  rw [get?_dataOf, h, Option.some_or]

/-- Under any other key there is what the maps have. -/
theorem get?_dataOf_of_not_mem {n : Notification} {key : String} (h : key ∉ reservedKeys) :
    (dataOf n).get? key =
      ((n.metadata.get? key).or (n.values.details.get? key)).map Scalar.display := by
  rw [← keys_reserved n] at h
  rw [get?_dataOf, lookup_eq_none h, Option.none_or]

/-- The keys of the further values are the reserved ones and those of the maps. -/
theorem mem_keys_dataOf (n : Notification) (key : String) :
    key ∈ (dataOf n).entries.map Prod.fst ↔ key ∈ reservedKeys ∨
      key ∈ n.metadata.entries.map Prod.fst ∨ key ∈ n.values.details.entries.map Prod.fst := by
  have hkeys : ∀ {β : Type} (m : Keyed β), key ∈ m.entries.map Prod.fst ↔ (m.get? key).isSome :=
    fun _ => Keyed.isSome_lookup_iff.symm
  rw [hkeys, hkeys, hkeys, ← keys_reserved n, ← Keyed.isSome_lookup_iff, get?_dataOf]
  simp only [Option.isSome_or, Option.isSome_map, Bool.or_eq_true]

/-! ### Payloads -/

/-- Further values that have those of a notification by their precedence, and no others. -/
structure Carries (data : Keyed String) (n : Notification) : Prop where
  name : data.get? "name" = some n.values.name
  link : data.get? "link" = some n.values.link
  templateCode : data.get? "template_code" = some n.templateCode
  anonymous : n.userId = none → data.get? "user_id" = some ""
  userId : ∀ u, n.userId = some u → ∃ s, u.IsHyphenated s ∧ data.get? "user_id" = some s
  requestId : data.get? "request_id" = some n.requestId
  metadata : ∀ key s, key ∉ reservedKeys → n.metadata.get? key = some s →
    data.get? key = some s.display
  details : ∀ key s, key ∉ reservedKeys → n.metadata.get? key = none →
    n.values.details.get? key = some s → data.get? key = some s.display
  absent : ∀ key, key ∉ reservedKeys → n.metadata.get? key = none →
    n.values.details.get? key = none → data.get? key = none
  keys : ∀ key, key ∈ data.entries.map Prod.fst ↔ key ∈ reservedKeys ∨
    key ∈ n.metadata.entries.map Prod.fst ∨ key ∈ n.values.details.entries.map Prod.fst

/-- A payload with the token of a device, the templates filled in, and the further values of a
notification. -/
structure Payload.Serves (p : Payload) (token : String) (n : Notification) : Prop where
  token : p.token = token
  title : p.title = "Hello, " ++ n.values.name ++ "!"
  body : p.body = "You have a new update. Check it out here: " ++ n.values.link
  data : Carries p.data n

theorem carries_dataOf (n : Notification) : Carries (dataOf n) n where
  name := get?_dataOf_of_reserved rfl
  link := get?_dataOf_of_reserved rfl
  templateCode := get?_dataOf_of_reserved rfl
  anonymous h := by
    have huser : (reserved n).lookup "user_id" = some ((n.userId.map UserId.render).getD "") := rfl
    rw [get?_dataOf_of_reserved huser, h]
    rfl
  userId u h := by
    have huser : (reserved n).lookup "user_id" = some ((n.userId.map UserId.render).getD "") := rfl
    refine ⟨u.render, UserId.isHyphenated_iff.2 rfl, ?_⟩
    rw [get?_dataOf_of_reserved huser, h]
    rfl
  requestId := get?_dataOf_of_reserved rfl
  metadata key s hkey hs := by
    rw [get?_dataOf_of_not_mem hkey, hs]
    rfl
  details key s hkey hnone hs := by
    rw [get?_dataOf_of_not_mem hkey, hnone, hs]
    rfl
  absent key hkey hnone hnone' := by
    rw [get?_dataOf_of_not_mem hkey, hnone, hnone']
    rfl
  keys := mem_keys_dataOf n

/-- **What is sent for a notification**: its own fields under the reserved keys, whatever its maps
hold there, under any other key what the metadata have, or else the variables, and nothing more. -/
theorem payloadOf_serves (token : String) (n : Notification) :
    (payloadOf token n).Serves token n where
  token := rfl
  title := rfl
  body := rfl
  data := carries_dataOf n

/-- Further values that carry those of a notification are determined by it. -/
theorem Carries.unique {data data' : Keyed String} {n : Notification} (h : Carries data n)
    (h' : Carries data' n) : data = data' := by
  refine Keyed.ext_get? fun key => ?_
  by_cases hkey : key ∈ reservedKeys
  · simp only [reservedKeys, List.mem_cons, List.not_mem_nil, or_false] at hkey
    rcases hkey with rfl | rfl | rfl | rfl | rfl
    · rw [h.name, h'.name]
    · rw [h.link, h'.link]
    · rw [h.templateCode, h'.templateCode]
    · cases huser : n.userId with
      | none => rw [h.anonymous huser, h'.anonymous huser]
      | some u =>
        obtain ⟨s, hs, hget⟩ := h.userId u huser
        obtain ⟨s', hs', hget'⟩ := h'.userId u huser
        rw [hget, hget', UserId.isHyphenated_iff.1 hs, UserId.isHyphenated_iff.1 hs']
    · rw [h.requestId, h'.requestId]
  · cases hmetadata : n.metadata.get? key with
    | some s => rw [h.metadata key s hkey hmetadata, h'.metadata key s hkey hmetadata]
    | none =>
      cases hdetails : n.values.details.get? key with
      | some s =>
        rw [h.details key s hkey hmetadata hdetails, h'.details key s hkey hmetadata hdetails]
      | none =>
        rw [h.absent key hkey hmetadata hdetails, h'.absent key hkey hmetadata hdetails]

end Provider

end Courier
