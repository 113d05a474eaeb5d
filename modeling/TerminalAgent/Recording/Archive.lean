import TerminalAgent.Recording.StoreError

/-!
# What readers see of a store

An `Archive` is the side of a store that playback needs: the bytes of sealed recordings and the list
of them.
-/

namespace TerminalAgent

/-- A sealed recording and its size in bytes. -/
structure RecordingInfo where
  key : String
  size : Nat
  deriving Repr, DecidableEq

structure Archive where
  read : String → Except StoreError Bytes
  /-- The sealed recordings in ascending order of keys. -/
  list : Except StoreError (List RecordingInfo)

end TerminalAgent
