import Fortune.Command.Start

/-! Resolutions: the text of one template in a context put together from texts. -/
namespace Fortune.Command

structure Resolution where
  template : String
  pos : String := "0,64,0"
  player : Option Player := none
  seed : UInt64 := 42
deriving DecidableEq, Repr

def Resolution.text (r : Resolution) (uuid : Uuid) : Except Failure String := do
  let c ← contextAt r.pos r.player uuid r.seed
  (Template.resolve r.template c).1.mapError .template

end Fortune.Command
