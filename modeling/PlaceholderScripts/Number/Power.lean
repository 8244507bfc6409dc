/-!
# Powers

A power of a whole number is the one of the core library in every module. What else a module imports
does not change which operation `2 ^ 64` stands for. Where nothing tells the base, it is a natural
number.
-/

namespace PlaceholderScripts

@[default_instance 20001]
instance (priority := 20000) natPow : Pow Nat Nat := instPowNat

@[default_instance 20000]
instance (priority := 20000) intPow : Pow Int Nat := instPowNat

end PlaceholderScripts
