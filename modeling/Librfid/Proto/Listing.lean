import Librfid.Proto.Grants

namespace Librfid.Proto

open Rc632 Layer2 Exec

section

variable {γ : Type} (card : CryptoCard γ) (undef : UInt8) (fuel : Nat) (stack : Mem UInt8) (hd : Handle)

end

namespace Vault

end Vault

section

variable {locks : Locks} {undef : UInt8} {stack : Mem UInt8} {hd : Handle} {w w' : Desk Vault}

end

section

variable {locks : Locks} {undef : UInt8} {stack : Mem UInt8} {hd : Handle}

section

variable {buf : Mem UInt8} {sector : Nat} {sectors : List Nat} {w w₁ : Desk Vault}
  {out : List (Nat × List UInt8)} {ret : Int}

end

end

end Librfid.Proto
