import PlaceholderScripts.Cache.Results
import PlaceholderScripts.Store

/-!
# Script definitions

A named template together with its data store and the cache of its results.
-/

namespace PlaceholderScripts

structure Definition where
  identifier : String
  template : String
  data : Store
  cache : ResultCache := .new .disabled
  deriving Inhabited

namespace Definition

/-- An uncached script whose data never touches the disk. -/
def ephemeral (identifier template : String) : Definition :=
  { identifier, template, data := .inMemory identifier }

def policy (d : Definition) : CachePolicy := d.cache.policy

/-- Replaces the cache by an empty one for the policy that `text` gives. A text that is no policy
leaves the script uncached. -/
def applyCachePolicy (now : Instant) (text : String) (d : Definition) :
    Except PolicyError Unit × Definition :=
  match CachePolicy.parse now text with
  | .ok policy => (.ok (), { d with cache := .new policy })
  | .error e => (.error e, { d with cache := .new .disabled })

end Definition

end PlaceholderScripts
