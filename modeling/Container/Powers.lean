set_option autoImplicit false

/-!
# Powers of whole numbers

Sizes and bounds are written as powers. A library that knows powers of many kinds of numbers has
its own powers of whole numbers too. Here they are always those of the language, so that a
definition is the same one whether or not such a library is there.
-/

attribute [instance (1100), default_instance 11000] instPowNat
