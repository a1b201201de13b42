/-!
# Arithmetic modulo a number

* `Modular.pow` raises to a power by repeated squaring, `Modular.inv` divides modulo a prime.
-/

namespace ServiceHost.Modular

/-- The difference of two numbers modulo a third. -/
def sub (m a b : Nat) : Nat := (a + (m - b % m)) % m

/-- A power modulo a number. -/
def pow (m base exponent : Nat) : Nat :=
  if exponent = 0 then 1 % m
  else
    let half := pow m base (exponent / 2)
    let square := half * half % m
    if exponent % 2 = 0 then square else square * base % m
termination_by exponent

/-- The inverse modulo a prime, zero for zero. -/
def inv (p a : Nat) : Nat := pow p a (p - 2)

/-- A multiple of an element, by doubling and adding. -/
def multiple {α : Type} (zero : α) (add : α → α → α) (a : α) (count : Nat) : α :=
  if count = 0 then zero
  else
    let half := multiple zero add a (count / 2)
    let twice := add half half
    if count % 2 = 0 then twice else add twice a
termination_by count

end ServiceHost.Modular
