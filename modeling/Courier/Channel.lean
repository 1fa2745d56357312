/-!
# The channels of the service

## Main definitions

* `Channel`: the channels, by what they are for.
-/

namespace Courier

/-- A channel of the service. -/
inductive Channel where
  /-- The topology is declared on it. -/
  | setup
  /-- A worker consumes, settles and publishes its retries on it. -/
  | worker (id : Nat)
  /-- Accepted notifications are published on it. -/
  | publisher
  deriving DecidableEq, Repr

end Courier
