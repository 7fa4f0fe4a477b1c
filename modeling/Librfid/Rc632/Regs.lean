import Librfid.Base

namespace Librfid.Rc632

def regCommand : UInt8 := 0x01
def regPrimaryStatus : UInt8 := 0x03
def regFifoLength : UInt8 := 0x04
def regInterruptEn : UInt8 := 0x06
def regInterruptRq : UInt8 := 0x07
def regControl : UInt8 := 0x09
def regErrorFlag : UInt8 := 0x0a
def regCollPos : UInt8 := 0x0b
def regBitFraming : UInt8 := 0x0f
def regTxControl : UInt8 := 0x11
def regCwConductance : UInt8 := 0x12
def regModConductance : UInt8 := 0x13
def regCoderControl : UInt8 := 0x14
def regModWidth : UInt8 := 0x15
def regModWidthSof : UInt8 := 0x16
def regTypeBFraming : UInt8 := 0x17
def regRxControl1 : UInt8 := 0x19
def regDecoderControl : UInt8 := 0x1a
def regBitPhase : UInt8 := 0x1b
def regRxThreshold : UInt8 := 0x1c
def regBpskDemControl : UInt8 := 0x1d
def regRxControl2 : UInt8 := 0x1e
def regRxWait : UInt8 := 0x21
def regChannelRedundancy : UInt8 := 0x22
def regCrcPresetLsb : UInt8 := 0x23
def regCrcPresetMsb : UInt8 := 0x24
def regTimerClock : UInt8 := 0x2a
def regTimerControl : UInt8 := 0x2b
def regTimerReload : UInt8 := 0x2c

def statErr : UInt8 := 0x04
def statIrq : UInt8 := 0x08

def cmdIdle : UInt8 := 0x00
def cmdTransceive : UInt8 := 0x1e

def intSet : UInt8 := 0x80

def controlFifoFlush : UInt8 := 0x01
def controlCrypto1On : UInt8 := 0x08

def errFlagColErr : UInt8 := 0x01
def errFlagParityErr : UInt8 := 0x02
def errFlagFramingErr : UInt8 := 0x04
def errFlagCrcErr : UInt8 := 0x08

def crParityEnable : UInt8 := 0x01
def crParityOdd : UInt8 := 0x02
def crTxCrcEnable : UInt8 := 0x04
def crRxCrcEnable : UInt8 := 0x08
def crCrc3309 : UInt8 := 0x20

def txctrlTx1RfEn : UInt8 := 0x01
def txctrlTx2RfEn : UInt8 := 0x02
def txctrlTx2Inv : UInt8 := 0x08
def txctrlForce100Ask : UInt8 := 0x10
def txctrlModSrcInt : UInt8 := 0x40

def cdrctrlTxcd14443a : UInt8 := 0x01
def cdrctrlRateMask : UInt8 := 0x38
def cdrctrlRate848k : UInt8 := 0x00
def cdrctrlRate424k : UInt8 := 0x08
def cdrctrlRate212k : UInt8 := 0x10
def cdrctrlRate106k : UInt8 := 0x18

def rxctrl1Gain35db : UInt8 := 0x03
def rxctrl1Iso14443 : UInt8 := 0x10
def rxctrl1SubcpMask : UInt8 := 0xe0
def rxctrl1Subcp1 : UInt8 := 0x00
def rxctrl1Subcp2 : UInt8 := 0x20
def rxctrl1Subcp4 : UInt8 := 0x40
def rxctrl1Subcp8 : UInt8 := 0x60

def decctrlManchester : UInt8 := 0x00
def decctrlBpsk : UInt8 := 0x01
def decctrlRxfr14443a : UInt8 := 0x08

def rxctrl2DecsrcInt : UInt8 := 0x01
def rxctrl2ClkQ : UInt8 := 0x00

def cm5121CwConductance : UInt8 := 0x3f
def cm5121ModConductance : UInt8 := 0x3f
def cm512114443aBitphase : UInt8 := 0xa9
def cm512114443aThreshold : UInt8 := 0xff

def tmrStartTxEnd : UInt8 := 0x02
def tmrStopRxBegin : UInt8 := 0x04

def irqIdle : UInt8 := 0x04
def irqRx : UInt8 := 0x08
def irqTimer : UInt8 := 0x20
def irqSet : UInt8 := 0x80

end Librfid.Rc632
