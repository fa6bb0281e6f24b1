/-!
Powers of natural numbers. `m ^ n` is the power of the core library in every module, whatever other
powers are in scope beside it, so that a bound means the same wherever it is written.
-/

attribute [default_instance 20000,instance (2000)] instPowNat
