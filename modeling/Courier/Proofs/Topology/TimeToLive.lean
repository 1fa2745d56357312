import Courier.Proofs.Config.Limits

/-!
# The time to live of a retry

A delay is a duration of up to 64 bits of seconds, and the time to live that makes it a signed
integer of 64 bits of milliseconds.  The shortest delays have no whole millisecond, and the longest
ones have too many.  Both are refused; every other one becomes its exact number of milliseconds, and
nothing wraps around.

* `Topology.entries_retryQueueArguments` : the arguments of the retry queue, entry by entry.
* `Topology.Punctual` : the time to live of a delay is exact, or the delay is refused.
* `Topology.retryQueueArguments_exact` : **every delay is exact or refused**, and of the delays of
  valid configurations only those that are too long are refused.
-/

namespace Courier

namespace Topology

variable {c : Config} {arguments : Amqp.Table}

/-- A delay without a whole millisecond makes no arguments of the retry queue. -/
theorem retryQueueArguments_of_zero (h : c.retryDelay.millis = 0) :
    retryQueueArguments c = .error (.invalid "retry delay must be at least 1ms") := by
  rw [retryQueueArguments, timeToLive, h, if_neg (by decide), if_pos rfl]
  rfl

theorem exists_retryQueueArguments_iff :
    (∃ arguments, retryQueueArguments c = .ok arguments) ↔
      1 ≤ c.retryDelay.millis ∧ c.retryDelay.millis ≤ 9223372036854775807 := by
  rcases retryQueueArguments_cases c with ⟨hpos, hfits, hok⟩ | ⟨hnot, problem, herror⟩
  · exact iff_of_true hok ⟨hpos, Nat.le_of_lt_succ hfits⟩
  · refine iff_of_false ?_ fun h => hnot ⟨h.1, Nat.lt_succ_of_le h.2⟩
    rintro ⟨arguments, hok⟩
    cases herror.symm.trans hok

theorem entries_deadLetterArguments (exchange routingKey : String) :
    (deadLetterArguments exchange routingKey).entries =
      [(deadLetterExchangeArgument, .string exchange),
        (deadLetterRoutingKeyArgument, .string routingKey)] := by
  have hlt : deadLetterExchangeArgument < deadLetterRoutingKeyArgument := by decide
  refine Keyed.insertEntry_of_lt fun e he => ?_
  obtain rfl := List.mem_singleton.1 he
  exact hlt

/-- The arguments of the retry queue, entry by entry: where expired messages go, and the exact
milliseconds after which they do. -/
theorem entries_retryQueueArguments (h : retryQueueArguments c = .ok arguments) :
    ∃ ttl : Int64, ttl.toInt = c.retryDelay.millis ∧ arguments.entries =
      [(deadLetterExchangeArgument, .string c.mainExchange),
        (deadLetterRoutingKeyArgument, .string c.mainRoutingKey),
        (messageTtlArgument, .int64 ttl)] := by
  obtain ⟨ttl, httl, rfl⟩ := retryQueueArguments_eq h
  refine ⟨ttl, toInt_timeToLive httl, ?_⟩
  have hexchange : deadLetterExchangeArgument < messageTtlArgument := by decide
  have hkey : deadLetterRoutingKeyArgument < messageTtlArgument := by decide
  have hbefore := entries_deadLetterArguments c.mainExchange c.mainRoutingKey
  have hlast : ∀ e ∈ (deadLetterArguments c.mainExchange c.mainRoutingKey).entries,
      e.1 < messageTtlArgument := by
    rw [hbefore]
    intro e he
    rcases List.mem_cons.1 he with rfl | he
    · exact hexchange
    · obtain rfl := List.mem_singleton.1 he
      exact hkey
  calc
    _ = (deadLetterArguments c.mainExchange c.mainRoutingKey).entries ++
        [(messageTtlArgument, .int64 ttl)] := Keyed.insertEntry_of_lt hlast
    _ = _ := by rw [hbefore, List.cons_append, List.singleton_append]

/-- The time to live of a delay of `ms` milliseconds is exact, or the delay is refused. -/
structure Punctual (c : Config) (ms : Nat) : Prop where
  /-- A delay is accepted if its milliseconds are positive and fit a signed integer of 64 bits. -/
  accepted : (∃ arguments, retryQueueArguments c = .ok arguments) ↔
    1 ≤ ms ∧ ms ≤ 9223372036854775807
  /-- Then there are three arguments, of which the last is the milliseconds. -/
  exact : ∀ arguments, retryQueueArguments c = .ok arguments → ∃ ttl : Int64, ttl.toInt = ms ∧
    arguments.entries = [("x-dead-letter-exchange", .string c.mainExchange),
      ("x-dead-letter-routing-key", .string c.mainRoutingKey), ("x-message-ttl", .int64 ttl)]
  /-- A delay without a whole millisecond is refused by name. -/
  tooShort : ms = 0 →
    retryQueueArguments c = .error (.invalid "retry delay must be at least 1ms")
  /-- So is one with too many of them. -/
  tooLong : 9223372036854775808 ≤ ms →
    retryQueueArguments c = .error (.invalid "retry delay does not fit in i64 ms")

/-- **Every delay is exact or refused.**  Of the delays of valid configurations, only those that do
not fit a signed integer of 64 bits are refused. -/
theorem retryQueueArguments_exact (c : Config) :
    Punctual c (c.retryDelay.seconds.toNat * 1000 + c.retryDelay.nanos.val / 1000000) ∧
    ∀ c' : Courier.Config, c'.validate = .ok () →
      ((∃ e, retryQueueArguments c'.topology = .error e) ↔
        9223372036854775808 ≤ c'.retryDelayMs.toNat) := by
  constructor
  · exact ⟨exists_retryQueueArguments_iff, fun _ => entries_retryQueueArguments,
      retryQueueArguments_of_zero, retryQueueArguments_of_large⟩
  · intro c' hvalid
    have hdelay : c'.retryDelayMs.toNat ≠ 0 := fun hzero =>
      (Config.validate_eq_ok_iff.1 hvalid).delay (UInt64.toNat_inj.1 hzero)
    have hmillis : c'.topology.retryDelay.millis = c'.retryDelayMs.toNat :=
      Duration.millis_ofMillis c'.retryDelayMs
    rcases retryQueueArguments_cases c'.topology with ⟨-, hfits, arguments, hok⟩ |
      ⟨hnot, problem, herror⟩
    · refine iff_of_false ?_ (by omega)
      rintro ⟨e, herror⟩
      cases hok.symm.trans herror
    · exact iff_of_true ⟨_, herror⟩ (by omega)

/-- A topology whose retries wait for some nanoseconds more than the whole seconds that fit. -/
def patient (nanos : Fin 1000000000) : Config :=
  { (Courier.Config.standard "amqp://localhost").topology with
    retryDelay := ⟨9223372036854775, nanos⟩ }

/-- The longest delay is exact, and the next millisecond is refused; so is the first one too many in
a valid configuration. -/
theorem retryQueueArguments_exact_longest :
    (∃ arguments, retryQueueArguments (patient ⟨807999999, by decide⟩) = .ok arguments ∧
      ∃ ttl : Int64, ttl.toInt = 9223372036854775807 ∧
        arguments.get? messageTtlArgument = some (.int64 ttl)) ∧
    retryQueueArguments (patient ⟨808000000, by decide⟩) =
      .error (.invalid "retry delay does not fit in i64 ms") ∧
    Config.boundless.validate = .ok () ∧
    ∃ e, retryQueueArguments Config.boundless.topology = .error e := by
  obtain ⟨hlongest, hvalid⟩ := retryQueueArguments_exact (patient ⟨807999999, by decide⟩)
  obtain ⟨hnext, -⟩ := retryQueueArguments_exact (patient ⟨808000000, by decide⟩)
  obtain ⟨arguments, hok⟩ := hlongest.accepted.2 (by decide)
  obtain ⟨ttl, httl, hentries⟩ := hlongest.exact arguments hok
  refine ⟨⟨arguments, hok, ttl, httl, ?_⟩, hnext.tooLong (by decide), rfl,
    (hvalid Config.boundless rfl).2 (by decide)⟩
  rw [Keyed.get?, hentries]
  rfl

end Topology

end Courier
