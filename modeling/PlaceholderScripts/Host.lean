import PlaceholderScripts.Identity

/-!
# The host of the scripts

What scripts can see of the server they run inside, and of the component that owns them.
-/

namespace PlaceholderScripts

structure Server where
  name : String := "scriptex"
  version : String := "0.1.0"
  players : List OnlinePlayer := []
  deriving DecidableEq, Repr, Inhabited

/-- The connected player of a name, in any case of the ASCII letters. -/
def Server.player? (server : Server) (name : String) : Option OnlinePlayer :=
  server.players.find? fun p => p.name.toList.map Char.toLower = name.toList.map Char.toLower

/-- The component that owns every script. -/
structure ExpansionInfo where
  identifier : String := "scriptex"
  author : String := "scriptex contributors"
  version : String := "0.1.0"
  deriving DecidableEq, Repr, Inhabited

end PlaceholderScripts
