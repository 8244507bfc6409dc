import PlaceholderScripts.Identity.PlayerId

/-!
# Who asks for an evaluation

A requester is a connected player, a player known by id who may not be connected, or nobody in
particular.
-/

namespace PlaceholderScripts

structure OnlinePlayer where
  id : PlayerId
  name : String
  displayName : String := name
  world : Option String := none
  deriving DecidableEq, Repr

/-- What is known about a requester whether or not they are connected. -/
structure OfflinePlayer where
  id : PlayerId
  name : Option String
  online : Bool := false
  deriving DecidableEq, Repr

inductive Identity where
  | online (player : OnlinePlayer)
  | offline (player : OfflinePlayer)
  | anonymous
  deriving DecidableEq, Repr

namespace Identity

def uniqueId? : Identity → Option PlayerId
  | .online player => some player.id
  | .offline player => some player.id
  | .anonymous => none

def name? : Identity → Option String
  | .online player => some player.name
  | .offline player => player.name
  | .anonymous => none

def onlinePlayer? : Identity → Option OnlinePlayer
  | .online player => some player
  | _ => none

/-- The view that every known requester has, connected or not. -/
def offlineView? : Identity → Option OfflinePlayer
  | .online player => some ⟨player.id, some player.name, true⟩
  | .offline player => some player
  | .anonymous => none

def isAnonymous : Identity → Bool
  | .anonymous => true
  | _ => false

end Identity

end PlaceholderScripts
