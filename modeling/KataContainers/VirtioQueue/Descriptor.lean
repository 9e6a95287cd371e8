import Mathlib.Data.Nat.Basic

/-!
# Virtqueue descriptors

A descriptor as `virtio_queue::DescriptorChain::next` yields it: the guest address and length
of its buffer and the two flags the devices test, `VIRTQ_DESC_F_WRITE` (`is_write_only`) and
`VIRTQ_DESC_F_NEXT` (`has_next`). A descriptor chain is the list of descriptors that the
iterator yields, in order; all of their fields are chosen by the guest.
-/

namespace VirtioQueue

/-- One descriptor of a chain. -/
structure Descriptor where
  addr : UInt64
  len : UInt32
  writeOnly : Bool
  hasNext : Bool
deriving DecidableEq, Repr

end VirtioQueue
