/-!
Powers and sums of numbers. They are those of the core library throughout, also where a library with
powers and zeros of its own is imported, so that a definition means the same wherever it is used.
-/

attribute [instance (2000)] instPowNat Zero.ofOfNat0

attribute [default_instance 20000] instPowNat
