/-!
# Powers

A power with a natural exponent is the core one throughout, also in a
file that imports an algebra library with a power of its own: bounds like
`2 ^ 64` are then one term everywhere, and one that evaluates.
-/

attribute [instance (high), default_instance (20000)] instPowNat
