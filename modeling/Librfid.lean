import Librfid.Lib.Mem
import Librfid.Lib.Bits
import Librfid.Lib.Client
import Librfid.Base
import Librfid.Tcl.Block
import Librfid.Tcl.Transceive
import Librfid.Tcl.Verdict
import Librfid.Tcl.Bounds
import Librfid.Tcl.Picc
import Librfid.Tcl.Session
import Librfid.Tcl.Decode
import Librfid.Lib.Exec
import Librfid.Rc632.Regs
import Librfid.Rc632.Frames
import Librfid.Rc632.Keeps
import Librfid.Rc632.Refill
import Librfid.Rc632.Chip
import Librfid.Rc632.Exchange
import Librfid.Rc632.Isolation
import Librfid.Rc632.Collision
import Librfid.Rc632.Framing
import Librfid.Layer2.Iso14443a
import Librfid.Layer2.Acf
import Librfid.Layer2.Cards
import Librfid.Layer2.BitFrame
import Librfid.Layer2.Anticollision
import Librfid.Layer2.Redundancy
import Librfid.Layer2.Iso15693
import Librfid.Layer2.Options
import Librfid.Layer2.Inventory
import Librfid.Layer2.Selected
import Librfid.Layer2.Narrowing
import Librfid.Iso14443Common
import Librfid.Layer2.Iso14443b
import Librfid.Layer2.Activation
import Librfid.Tcl.Connect
import Librfid.Tcl.Lifecycle
import Librfid.Tcl.Reactivation
import Librfid.Tcl.FrameSize
import Librfid.Rc632.Config
import Librfid.Rc632.Timer
import Librfid.Rc632.Rate
import Librfid.Tcl.Pps
import Librfid.Tcl.BitRate
import Librfid.Proto.MifareUl
import Librfid.Proto.MifareClassic
import Librfid.Proto.Dump
import Librfid.Scan
import Librfid.Rc632.Transports
import Librfid.Layer2.Heard
import Librfid.Layer2.Wakeup
import Librfid.Layer2.Selection
import Librfid.Rc632.Watching
import Librfid.Layer2.AcfBounds
import Librfid.Layer2.Termination
import Librfid.Lib.Twice
import Librfid.Layer2.Api
import Librfid.Layer2.Allocation
import Librfid.Rc632.Mifare
import Librfid.Rc632.Sites
import Librfid.Rc632.Faults
import Librfid.Rc632.Noted
import Librfid.Rc632.Swallowed
import Librfid.Rc632.Unnoticed
import Librfid.Tcl.Ats
import Librfid.Rc632.Period
import Librfid.Tcl.Chaining
import Librfid.Tcl.WaitingTime
import Librfid.Layer2.AcfFrame
import Librfid.Layer2.Blocks
import Librfid.Layer2.Requests
import Librfid.Layer2.Retries
import Librfid.Tcl.Atqb
import Librfid.Tcl.FsdCoding
import Librfid.Proto.Access
import Librfid.Rc632.Received
import Librfid.Utils.Hexread
import Librfid.Proto.Reads
import Librfid.Proto.Writes
import Librfid.Layer2.Branch
import Librfid.Rc632.Switching
import Librfid.Lib.Edits
import Librfid.Rc632.Init
import Librfid.Rc632.Configuration
import Librfid.Rc632.History
import Librfid.Tcl.Station
import Librfid.Tcl.Connection
import Librfid.Layer2.Crowd
import Librfid.Layer2.Enumeration
import Librfid.Lib.Mimic
import Librfid.Rc632.Carried
import Librfid.Ccid.Escape
import Librfid.Rc632.Links
import Librfid.Ccid.Late
import Librfid.Rc632.Slow
import Librfid.Lib.Store
import Librfid.Proto.Pages
import Librfid.Lib.View
import Librfid.Proto.Crypto
import Librfid.Proto.Desk
import Librfid.Proto.Vault
import Librfid.Proto.Grants
import Librfid.Proto.Search
import Librfid.Proto.Listing
import Librfid.Layer2.Viccs
import Librfid.Layer2.Handles
import Librfid.Layer2.TagDump
