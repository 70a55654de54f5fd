import MixUnits.Word

/-!
# Runs of words

Memory, the blocks of a medium and the buffers of a transfer are runs of words.  One
operation serves them all: laying one run over another from a given place on.  The
run below keeps its length, so whatever does not fit is left out.
-/

namespace MixUnits

/-- A run of words. -/
abbrev Buffer := Array Word

namespace Buffer

/-- A run of positive zeros. -/
def blank (size : Nat) : Buffer :=
  Array.replicate size .zero

/-- Lays `source` over `buffer`, its first word on the word at `start`. -/
def overlay
    (buffer : Buffer)
    (start : Nat)
    (source : Buffer) :
    Buffer :=
  buffer.mapIdx fun index word =>
    if start ≤ index then source[index - start]?.getD word else word

@[simp]
theorem size_blank (size : Nat) : (blank size).size = size := by
  simp [blank]

@[simp]
theorem size_overlay
    (buffer : Buffer)
    (start : Nat)
    (source : Buffer) :
    (overlay buffer start source).size = buffer.size := by
  simp [overlay]

theorem getElem?_overlay
    (buffer : Buffer)
    (start : Nat)
    (source : Buffer)
    (index : Nat) :
    (overlay buffer start source)[index]? =
      buffer[index]?.map fun word =>
        if start ≤ index then source[index - start]?.getD word else word := by
  simp [overlay]

/-- What is laid over a run of the same length takes its place. -/
theorem overlay_of_size
    {buffer source : Buffer}
    (same : source.size = buffer.size) :
    overlay buffer 0 source = source := by
  apply Array.ext_getElem?
  intro index
  rw [getElem?_overlay, Nat.sub_zero]
  by_cases within : index < buffer.size
  · rw [Array.getElem?_eq_getElem within, Array.getElem?_eq_getElem (same ▸ within),
      Option.map_some, if_pos (Nat.zero_le index), Option.getD_some]
  · have beyond := Nat.le_of_not_lt within
    rw [Array.getElem?_eq_none beyond, Array.getElem?_eq_none (same ▸ beyond)]
    rfl

/-- The words from `start` up to, but not including, `stop`, as far as there are any. -/
def slice
    (buffer : Buffer)
    (start stop : Nat) :
    Buffer :=
  buffer.extract start stop

@[simp]
theorem size_slice
    (buffer : Buffer)
    (start stop : Nat) :
    (slice buffer start stop).size = min stop buffer.size - start := by
  simp [slice]

theorem getElem?_slice
    (buffer : Buffer)
    (start stop index : Nat) :
    (slice buffer start stop)[index]? =
      if start + index < stop then buffer[start + index]? else none := by
  rw [slice, Array.getElem?_extract]
  by_cases within : start + index < stop
  · rw [if_pos within]
    by_cases held : start + index < buffer.size
    · rw [if_pos (by omega)]
    · rw [if_neg (by omega), Array.getElem?_eq_none (Nat.le_of_not_lt held)]
  · rw [if_neg within, if_neg (by omega)]

end Buffer

end MixUnits
