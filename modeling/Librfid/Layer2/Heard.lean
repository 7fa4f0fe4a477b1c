import Librfid.Layer2.Acf

namespace Librfid.Layer2

open Rc632 Exec

/-- `requests` has the short frames sent, `last` the last anticollision answer, and `selects` the
answers to SELECT, each with the anticollision answer before it. -/
structure Heard where
  requests : List UInt8
  last : Mem UInt8
  selects : List (Mem UInt8 × AbResult)

def Heard.empty : Heard := ⟨[], fun _ => 0, []⟩

section

variable {σ : Type} (r : Reader σ)

def hearing : Reader (σ × Heard) where
  transceive frametype tx txLen rx rxLen timeout :=
    record (r.transceive frametype tx txLen rx rxLen timeout) fun x log =>
      { log with selects := log.selects ++ [(log.last, x)] }
  init := lift r.init
  transceiveSf cmd atqa := do
    modify fun log => { log with requests := log.requests ++ [cmd] }
    lift (r.transceiveSf cmd atqa)
  transceiveAcf acf := record (r.transceiveAcf acf) fun x log => { log with last := x.acf }
  speed := r.speed
  setSpeed tx speed := lift (r.setSpeed tx speed)

theorem hearing_rounds (I : List UInt8 → Prop) :
    RoundsKeep (hearing r) fun s => I s.2.requests where
  acf _ := keeps_record_snd (J := fun log : Heard => I log.requests) fun _ _ => id
  regular _ _ _ _ _ _ := keeps_record_snd (J := fun log : Heard => I log.requests) fun _ _ => id

end

end Librfid.Layer2
