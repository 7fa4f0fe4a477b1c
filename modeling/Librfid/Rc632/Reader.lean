import Librfid.Rc632.Frames
import Librfid.Rc632.Config

namespace Librfid

open Rc632

def rfid14443aSpeed106k : Nat := 0x01
def rfid14443aSpeed212k : Nat := 0x02
def rfid14443aSpeed424k : Nat := 0x04
def rfid14443aSpeed848k : Nat := 0x08

structure Reader (σ : Type) where
  transceive : RfidFrametype → Mem UInt8 → Nat → Mem UInt8 → Nat → Nat → Exec σ AbResult
  init : Exec σ Unit
  transceiveSf : UInt8 → Mem UInt8 → Exec σ SfResult
  transceiveAcf : Mem UInt8 → Exec σ AcfResult
  speed : Nat
  setSpeed : Bool → Nat → Exec σ Unit

namespace Rc632

inductive FrameKind
  | sf | acf (selCode : UInt8) | regular
  deriving DecidableEq

section

variable {σ : Type} (b : Bus σ) (rxPast : RxConfig) (txPast : TxConfig)

def rdrRc63214443aSetSpeed (tx : Bool) (speed : Nat) : Exec σ Unit :=
  if speed = rfid14443aSpeed106k then rc632Iso14443aSetSpeed b rxPast txPast tx 0x00
  else if speed = rfid14443aSpeed212k then rc632Iso14443aSetSpeed b rxPast txPast tx 0x01
  else if speed = rfid14443aSpeed424k then rc632Iso14443aSetSpeed b rxPast txPast tx 0x02
  else if speed = rfid14443aSpeed848k then rc632Iso14443aSetSpeed b rxPast txPast tx 0x03
  else Exec.fail (-eInval)

/-- A reader on the chip; the driver may be told which kind of frame it sends. -/
def reader (a : FrameKind → Asic σ) (speed : Nat) : Reader σ where
  transceive := rc632Iso14443abTransceive (a .regular)
  init := rc632Iso14443aInit (a .regular).toBus
  transceiveSf := rc632Iso14443aTransceiveSf (a .sf)
  transceiveAcf acf := rc632Iso14443aTransceiveAcf (a (.acf (acf 0))) acf
  speed := speed
  setSpeed := rdrRc63214443aSetSpeed (a .regular).toBus rxPast txPast

end

end Rc632

end Librfid
