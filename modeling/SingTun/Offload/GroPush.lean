import SingTun.Offload.GroHeaders

/-!
# The PSH flag of a merged packet

A TCP item remembers in `pshSet` whether its last segment has PSH, and an
append copies the flag into the header of the packet it extends.  A prepend
makes the header of the new packet the header of the item, and that packet has
no PSH.  So `pshSet` is always right, and the flag of the header is lost
exactly if a segment is put in front of an item with `pshSet`.
-/

namespace SingTun.Offload

open Foundation Header List

/-! ## The flag and the last segment -/

/-- The segment at the end of an item. -/
def TCPGROItem.last (item : TCPGROItem) : Nat :=
  item.members.getLastD 0

variable {isV6 : Bool}

section Tracked

variable {config : GROConfig} {given : List Buf} {k : Nat}
variable {state : GROState} {noops : Multiset Nat}
variable {isV6 : Bool} {c : TCPCandidate} {item item' : TCPGROItem}
variable {bufs' : List Buf} {mode : CanCoalesce}

section

variable (inv : GROInv config given k state noops)
include inv

end

end Tracked

/-! ## The written packets -/

section Written

variable {config : GROConfig} {given : List Buf} {state final : GROState}
variable {noops : Multiset Nat} {item : TCPGROItem}

end Written

end SingTun.Offload
