/-!
# HomeLedger — powers

Bounds and scales are powers of two and of ten. A power of a natural number or of an integer is
always the one that core computes by repeated multiplication. A larger library may bring another
instance for the same powers; if the choice were left open, what `10 ^ n` is would depend on what
else is in sight, and a fact about the one would be missed where the other is meant.
-/

attribute [instance (2000), default_instance 20000] instPowNat
