import PropertyReflection.Memory.Block

/-!
# Scratch buffers

A buffer is zeroed memory of a fixed size and alignment that a caller owns.  It has at least one
byte, and knows nothing of the values that are put into it.
-/

namespace PropertyReflection

/-- The size and alignment of a buffer. -/
structure BufferLayout where
  size : Nat
  align : Nat
deriving DecidableEq, Repr

namespace BufferLayout

/-- The buffer for `size` bytes, if it can be allocated. -/
def of? (size align : Nat) : Option BufferLayout :=
  if Slots.isAllocatable (max size 1) align then some ⟨max size 1, align⟩ else none

/-- The words in which an impossible buffer is reported. -/
def invalidMessage : String := "invalid buffer layout: LayoutError"

/-- The line that describes a buffer in diagnostics. -/
def render (layout : BufferLayout) : String :=
  "ValueBuffer \x7b size: " ++ toString layout.size ++ ", align: " ++ toString layout.align
    ++ " \x7d"

/-- The contents of a new buffer. -/
def zeroed (layout : BufferLayout) : Block := .filled layout.size 0

/-- No buffer is empty. -/
theorem size_pos_of_of? {size align : Nat} {layout : BufferLayout}
    (h : of? size align = some layout) : 0 < layout.size := by
  unfold of? at h
  grind

end BufferLayout

end PropertyReflection
