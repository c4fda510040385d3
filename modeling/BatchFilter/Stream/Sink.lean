import BatchFilter.Text.Utf8

/-! # Sinks

    A sink takes bytes in order.  It may have room for only so many: of a
    write that goes past the room it takes what fits, and then refuses.
    What it took may also fail to be made permanent at the end. -/

namespace BatchFilter

/-- Where bytes go. -/
structure Sink where
  /-- What was taken, newest write first. -/
  writes : List Bytes := []
  /-- How many more bytes can be taken, if there is a limit. -/
  room : Option Nat := none
  /-- What the sink says when it has no room. -/
  refusal : String := ""
  /-- What the sink says when it is flushed, if that fails. -/
  flushFailure : Option String := none
  deriving DecidableEq

namespace Sink

/-- All the bytes that were taken, in order. -/
def bytes (s : Sink) : Bytes :=
  s.writes.reverse.flatten

/-- Write bytes: the sink after it, and whether it took them all. -/
def write (s : Sink) (data : Bytes) : Sink × Bool :=
  match s.room with
  | none => ({ s with writes := data :: s.writes }, true)
  | some n =>
      if data.length ≤ n then
        ({ s with writes := data :: s.writes, room := some (n - data.length) }, true)
      else ({ s with writes := data.take n :: s.writes, room := some 0 }, false)

@[simp] theorem bytes_write_unlimited (s : Sink) (data : Bytes) (h : s.room = none) :
    (s.write data).1.bytes = s.bytes ++ data := by
  simp [write, h, bytes]

@[simp] theorem bytes_write_limited (s : Sink) (data : Bytes) (n : Nat)
    (h : s.room = some n) : (s.write data).1.bytes = s.bytes ++ data.take n := by
  unfold write
  rw [h]
  simp only
  split
  · rename_i hn
    simp [bytes, List.take_of_length_le hn]
  · simp [bytes]

end Sink

end BatchFilter
