import Driscord.Bytes

/-!
# Identities

Peers, rooms and users are named by byte strings.  The three kinds of name are
distinct types.
-/

namespace Driscord

/-- `PeerId`: the identity of a signaling session. -/
structure PeerId where
  value : Bytes
deriving DecidableEq, Repr

/-- `RoomId`. -/
structure RoomId where
  value : Bytes
deriving DecidableEq, Repr

/-- `Username`. -/
structure Username where
  value : Bytes
deriving DecidableEq, Repr

end Driscord
