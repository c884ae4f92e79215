import TwoVenue.Decimal.Division

/-!
# The amounts of a sweep

A sweep goes from the smallest amount to the largest in equal steps. The last amount is the largest one itself, whatever
the rounding of the step has left of it.

The amounts stand in a list, whose memory is limited. It gets room for all amounts but the last, and doubles that room to
take the last one. A list within its limit always gets its memory.
-/

namespace TwoVenue

/-- Room for so many decimals in a list. A decimal takes 16 bytes, and a list less than `2 ^ 63`. -/
def reserve (count : Nat) : Except Fault Unit :=
  if 16 * count < 0x8000000000000000 then .ok () else .error .capacityOverflow

/-- `base + i * step` for the given `i`. -/
def gridPoints (base step : Decimal) : List Nat → Except Fault (List Decimal)
  | [] => .ok []
  | i :: rest => do
    let offset ← (Decimal.ofNat i).mul step
    let amount ← base.add offset
    let others ← gridPoints base step rest
    return amount :: others

/-- So many amounts from `min` to `max`. Fewer than two are only `min`. -/
def sweepAmounts (min max : Decimal) (steps : Nat) : Except Fault (List Decimal) :=
  if steps < 2 then .ok [min]
  else do
    let range ← max.sub min
    let step ← range.div (Decimal.ofNat (steps - 1))
    reserve (steps - 1)
    let amounts ← gridPoints min step (List.range (steps - 1))
    -- the list is full, so it needs twice the room before it takes the last amount
    reserve (2 * (steps - 1))
    return amounts ++ [max]

end TwoVenue
