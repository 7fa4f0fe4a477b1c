import Mathlib.Algebra.Ring.Nat
import Mathlib.Tactic.Common

/-! Names shared by all layers: `rfid.h`, `rfid_layer2.h`, the error numbers and
the width of the C types. -/

namespace Librfid

inductive Layer2Id
  | none | iso14443a | iso14443b | iso15693 | icode1
  deriving DecidableEq

inductive RfidFrametype
  | iso14443aFrameRegular | iso14443bFrameRegular | mifareFrame | iso15693Frame
  | iso15693FrameIcode1
  deriving DecidableEq

def ePerm : Int := 1
def eIO : Int := 5
def eAcces : Int := 13
def eNoDev : Int := 19
def eInval : Int := 22
def eNotSup : Int := 95
def eTimedOut : Int := 110

/-- The signal that ends a process going through a null pointer. -/
def sigSegv : Int := 11

def u32Sub (a b : Nat) : Nat := if b ≤ a then a - b else a + 2 ^ 32 - b

theorem u32Sub_of_le {a b : Nat} (h : b ≤ a) : u32Sub a b = a - b := if_pos h

theorem u32Sub_of_lt {a b : Nat} (h : a < b) : u32Sub a b = a + 2 ^ 32 - b :=
  if_neg (Nat.not_le.mpr h)

end Librfid
