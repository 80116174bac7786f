/-
  This file defines the limits that machine numbers and
  memory set. Nodes are numbered with 32 bits, ticks and
  sites are counted with 64 bits, and one piece of memory
  has fewer than `2 ^ 63` bytes. A sum or a product that
  does not fit stops the computation, as it does where all
  arithmetic is checked.

  Key definitions include:
    * `nodeLimit`
    * `countLimit`
    * `memoryLimit`
-/

------------------------------------------------------------
-- Limits
------------------------------------------------------------

namespace LatticeGas

/- How many different numbers of nodes there are. -/
def nodeLimit : Nat :=
  4294967296

/- How many different counts there are. -/
def countLimit : Nat :=
  18446744073709551616

/- The greatest number of bytes in one piece of memory. -/
def memoryLimit : Nat :=
  9223372036854775807

end LatticeGas
