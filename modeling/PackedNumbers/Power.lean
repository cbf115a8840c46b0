/-!
Powers with natural exponents, read the same way in every module.
-/
namespace PackedNumbers

/-- A module that imports an algebra would otherwise read `^` through the algebra's instance. -/
@[default_instance 20000]
instance (priority := high) powNat {α : Type} [NatPow α] : Pow α Nat := instPowNat

end PackedNumbers
