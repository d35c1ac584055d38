namespace FrontDoor.RateLimit

class Amount (α : Type) where
  ofNat : Nat → α
  seconds : Nat → α
  add : α → α → α
  sub : α → α → α
  mul : α → α → α
  capped : α → α → α
  le : α → α → Bool
  lt : α → α → Bool
  floor : α → Nat
  secondsPerToken : α → Nat

instance : Amount Float where
  ofNat := Float.ofNat
  seconds nanos := Float.ofNat (nanos / 1000000000) + Float.ofNat (nanos % 1000000000) / 1000000000.0
  add := (· + ·)
  sub := (· - ·)
  mul := (· * ·)
  capped x cap := if x.isNaN || cap < x then cap else x
  le x y := x ≤ y
  lt x y := x < y
  floor x := x.floor.toUInt32.toNat
  secondsPerToken rate :=
    let x := (1.0 / rate).ceil
    (if x < 1.0 then 1.0 else x).toUInt64.toNat

end FrontDoor.RateLimit
