/-! Hexadecimal text of a fixed width, in upper case digits with zeros in front. -/
namespace Rdm.Hexadecimal

def digit (n : Nat) : Char :=
  if n < 10 then Char.ofNat ('0'.toNat + n) else Char.ofNat ('A'.toNat + (n - 10))

/-- The low `width` digits of a number, most significant first. -/
def digits : (width n : Nat) → List Char
  | 0, _ => []
  | width + 1, n => digits width (n / 16) ++ [digit (n % 16)]

def text (width n : Nat) : String :=
  String.ofList (digits width n)

end Rdm.Hexadecimal
