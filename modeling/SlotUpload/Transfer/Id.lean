import SlotUpload.Log.Moment

/-!
# SlotUpload.Transfer.Id

Names for transfers and requests: the time in milliseconds, followed directly by
a counter of the names drawn in the process.  The counter is 64 bits wide and
starts again at zero when it overflows.
-/

namespace SlotUpload

/-- Where names come from: the count of those drawn so far. -/
structure IdSource where
  drawn : UInt64 := 0
  deriving DecidableEq, Repr

/-- The name drawn at a moment, and the source after it. -/
def IdSource.draw (s : IdSource) (now : Moment) : String × IdSource :=
  (String.ofList (Text.signedDigits now.millis ++ Text.digits s.drawn.toNat),
    { drawn := s.drawn + 1 })

end SlotUpload
