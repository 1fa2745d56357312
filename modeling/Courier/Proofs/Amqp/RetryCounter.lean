import Courier.Amqp.Message
import Courier.Proofs.Lists
import Courier.Retry

/-!
# The counter of retries on its way

The counter of a published retry is read back as it was written, over the whole range of 32 bits,
so that an occurrence of a retry has the counter that the retry was given.  Others write the header
too: what they write is clamped to 32 bits if it is an integer of any width, and zero otherwise.  No
number wraps around, so no message gets its retries back.

* `Amqp.Value.IsInteger` : the values of the seven integer types, and the integers that they are.
* `Amqp.toNat_clamp32` : clamping keeps the integers from zero up to the largest counter.
* `Amqp.Clamped` : how the header of some headers is read.
* `Amqp.retryCount_clamped` : **every header is read so**, and a counter that was written is read
  back among any other entries.
-/

namespace Courier

namespace Amqp

/-- A counter of 32 bits fits the signed integer of 64 bits that it is written as. -/
theorem toInt_ofNat_toNat (n : UInt32) : (Int64.ofNat n.toNat).toInt = n.toNat := by
  have h := n.toNat_lt
  exact Int64.toInt_ofNat_of_lt (by omega)

/-- Clamping keeps the integers from zero up to the largest counter, and moves all others to the
nearest of them. -/
theorem toNat_clamp32 (n : Int) : ((clamp32 n).toNat : Int) = min (max n 0) 4294967295 := by
  have hlt : min n.toNat 4294967295 < 2 ^ 32 := by omega
  rw [clamp32, UInt32.toNat_ofNat_of_lt' hlt]
  omega

/-- Clamping leaves a counter of 32 bits as it is. -/
theorem clamp32_toNat (n : UInt32) : clamp32 n.toNat = n := by
  have hlt := n.toNat_lt
  have hclamp := toNat_clamp32 n.toNat
  exact UInt32.toNat_inj.1 (by omega)

/-- Clamping keeps the order. -/
theorem clamp32_le_clamp32 {n n' : Int} (h : n ≤ n') : clamp32 n ≤ clamp32 n' := by
  have hclamp := toNat_clamp32 n
  have hclamp' := toNat_clamp32 n'
  exact UInt32.le_iff_toNat_le.2 (by omega)

/-- The counter is read back as it was written. -/
theorem retryCount_retryHeaders (n : UInt32) : retryCount (some (retryHeaders n)) = n := by
  have hget : (retryHeaders n).get? retryCountHeader = some (.int64 (Int64.ofNat n.toNat)) := by
    rw [retryHeaders, Keyed.get?_insert, if_pos rfl]
  simp only [retryCount, Option.bind_some, hget, Value.integer?, toInt_ofNat_toNat, clamp32_toNat]

/-- An occurrence of a published message has the counter that the message was given. -/
theorem Outgoing.occurrence_retryCount {m : Outgoing} {n : UInt32} (h : m.retryCount = some n) :
    m.occurrence.retryCount = n := by
  simp only [Outgoing.occurrence, Outgoing.properties, h, Option.map_some, retryCount_retryHeaders]

/-! ### Headers of any kind -/

/-- The values of the seven integer types, and the integers that they are. -/
inductive Value.IsInteger : Value → Int → Prop where
  | int8 (n : Int8) : IsInteger (.int8 n) n.toInt
  | uint8 (n : UInt8) : IsInteger (.uint8 n) n.toNat
  | int16 (n : Int16) : IsInteger (.int16 n) n.toInt
  | uint16 (n : UInt16) : IsInteger (.uint16 n) n.toNat
  | int32 (n : Int32) : IsInteger (.int32 n) n.toInt
  | uint32 (n : UInt32) : IsInteger (.uint32 n) n.toNat
  | int64 (n : Int64) : IsInteger (.int64 n) n.toInt

theorem Value.integer?_eq_some_iff {v : Value} {n : Int} :
    v.integer? = some n ↔ v.IsInteger n := by
  constructor
  · intro h
    cases v with
    | int8 n | uint8 n | int16 n | uint16 n | int32 n | uint32 n | int64 n =>
      cases h
      constructor
    | _ => cases h
  · intro h
    cases h <;> rfl

/-- Some headers have a value under the name of the counter. -/
def HasCounter (headers : Option Table) (v : Value) : Prop :=
  ∃ table, headers = some table ∧ table.get? retryCountHeader = some v

variable {headers headers' : Option Table} {v : Value} {n : Int}

theorem hasCounter_iff :
    HasCounter headers v ↔ (headers.bind fun table => table.get? retryCountHeader) = some v :=
  Option.bind_eq_some_iff.symm

/-- An integer is clamped, whatever its width is. -/
theorem retryCount_of_isInteger (h : HasCounter headers v) (hn : v.IsInteger n) :
    retryCount headers = clamp32 n := by
  simp only [retryCount, hasCounter_iff.1 h, Value.integer?_eq_some_iff.2 hn]

/-- Without an integer, the counter is zero. -/
theorem retryCount_of_not_isInteger (h : ∀ v n, HasCounter headers v → ¬ v.IsInteger n) :
    retryCount headers = 0 := by
  unfold retryCount
  cases hget : headers.bind fun table => table.get? retryCountHeader with
  | none => rfl
  | some v =>
    cases hint : v.integer? with
    | none => simp only [hint]
    | some n => exact absurd (Value.integer?_eq_some_iff.1 hint) (h v n (hasCounter_iff.2 hget))

/-- Nothing but the value under the name of the counter is read. -/
theorem retryCount_congr (h : ∀ v, HasCounter headers v ↔ HasCounter headers' v) :
    retryCount headers = retryCount headers' := by
  have hget := Option.ext fun v => hasCounter_iff.symm.trans ((h v).trans hasCounter_iff)
  simp only [retryCount, hget]

/-- A message is given up exactly if its counter, as an integer of any size, has reached the
greatest number of retries. -/
theorem afterFailure_clamp32 (policy : RetryPolicy) (n : Int) :
    policy.afterFailure (clamp32 n) = .deadLetter ↔ (policy.maxRetries.toNat : Int) ≤ max n 0 := by
  have hmax := policy.maxRetries.toNat_lt
  have hclamp := toNat_clamp32 n
  unfold RetryPolicy.afterFailure
  split
  · next hlt =>
    rw [UInt32.lt_iff_toNat_lt] at hlt
    exact iff_of_false nofun (by omega)
  · next hle =>
    rw [UInt32.lt_iff_toNat_lt] at hle
    exact iff_of_true rfl (by omega)

/-- How the counter in some headers is read. -/
structure Clamped (headers : Option Table) : Prop where
  /-- An integer of any width is clamped to 32 bits. -/
  integer : ∀ v n, HasCounter headers v → v.IsInteger n →
    ((retryCount headers).toNat : Int) = min (max n 0) 4294967295
  /-- A value of any other type is zero, and so is none. -/
  zero : (∀ v n, HasCounter headers v → ¬ v.IsInteger n) → retryCount headers = 0
  /-- Other headers do not matter. -/
  alone : ∀ headers', (∀ v, HasCounter headers v ↔ HasCounter headers' v) →
    retryCount headers = retryCount headers'
  /-- A smaller integer of any width is no greater counter. -/
  monotone : ∀ headers' v v' n n', HasCounter headers v → v.IsInteger n →
    HasCounter headers' v' → v'.IsInteger n' → n ≤ n' → retryCount headers ≤ retryCount headers'
  /-- After a failed delivery the message is given up exactly if the integer itself has reached the
  greatest number of retries. -/
  spent : ∀ policy v n, HasCounter headers v → v.IsInteger n →
    (RetryPolicy.afterFailure policy (retryCount headers) = .deadLetter ↔
      (policy.maxRetries.toNat : Int) ≤ max n 0)

/-- **Every header is read as a clamped integer**, and a counter that was written is read back, also
when other entries are added to it. -/
theorem retryCount_clamped (headers : Option Table) : Clamped headers ∧
    ∀ (n : UInt32) (entries : List (String × Value)), (∀ e ∈ entries, e.1 ≠ retryCountHeader) →
      retryCount (some ((retryHeaders n).insertAll entries)) = n := by
  constructor
  · constructor
    case integer =>
      intro v n hv hn
      rw [retryCount_of_isInteger hv hn]
      exact toNat_clamp32 n
    case zero => exact retryCount_of_not_isInteger
    case alone => exact fun _ => retryCount_congr
    case monotone =>
      intro headers' v v' n n' hv hn hv' hn' hle
      rw [retryCount_of_isInteger hv hn, retryCount_of_isInteger hv' hn']
      exact clamp32_le_clamp32 hle
    case spent =>
      intro policy v n hv hn
      rw [retryCount_of_isInteger hv hn]
      exact afterFailure_clamp32 policy n
  · intro n entries hother
    have hkeys : retryCountHeader ∉ entries.reverse.map Prod.fst := by
      rw [List.mem_map]
      rintro ⟨e, he, heq⟩
      exact hother e (List.mem_reverse.1 he) heq
    have hget : ((retryHeaders n).insertAll entries).get? retryCountHeader =
        (retryHeaders n).get? retryCountHeader := by
      rw [Keyed.get?_insertAll, lookup_eq_none hkeys, Option.none_or]
    have hsame : retryCount (some ((retryHeaders n).insertAll entries)) =
        retryCount (some (retryHeaders n)) := retryCount_congr fun v => by
      rw [hasCounter_iff, hasCounter_iff, Option.bind_some, Option.bind_some, hget]
    rw [hsame, retryCount_retryHeaders]

/-- Headers with a counter that 32 bits cannot hold, among others. -/
def crowded : Table :=
  (Keyed.empty.insert "trace" (.string "7")).insert retryCountHeader (.int64 5000000000)

/-- A counter that is too large is the largest one, with which a message is given up by every
policy; and a counter of seven is read back beside another entry. -/
theorem retryCount_clamped_crowded :
    retryCount (some crowded) = 4294967295 ∧
    RetryPolicy.afterFailure ⟨4294967295⟩ (retryCount (some crowded)) = .deadLetter ∧
    retryCount (some ((retryHeaders 7).insertAll [("trace", .string "5")])) = 7 := by
  obtain ⟨hclamped, hread⟩ := retryCount_clamped (some crowded)
  have hv : HasCounter (some crowded) (.int64 5000000000) := ⟨crowded, rfl, rfl⟩
  have hlargest := hclamped.integer _ _ hv (.int64 5000000000)
  refine ⟨?_, (hclamped.spent _ _ _ hv (.int64 5000000000)).2 (by decide), hread 7 _ (by decide)⟩
  exact UInt32.toNat_inj.1 (Int.ofNat_inj.1 hlargest)

end Amqp

end Courier
