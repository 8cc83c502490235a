import Prosopography.Cluster.Basic
import Prosopography.Collection.GroupBy
import Prosopography.Name.Key

/-!
# Exact clustering

Mentions with one matching key form one cluster, unless two of them are recorded
at different places: then each place has a cluster of its own, and so have the
mentions without a place. Names with an empty key are set aside.
-/

namespace Prosopography.Cluster

/-- A mention as it is clustered. -/
structure Entry where
  name : String
  location : Option String
  key : String
deriving Repr, DecidableEq

namespace Entry

/-- What is needed of a mention to put it into a cluster. -/
def ofMention (m : Mention) : Entry := ⟨m.name, m.location, Name.key m.name⟩

/-- The place of an entry as clusters hold it, if one is recorded. -/
def place? (e : Entry) : Option String := placeKey? e.location

end Entry

/-- Whether two entries with key `k` are recorded at different places. -/
def isSplit (entries : List Entry) (k : String) : Bool :=
  match (entries.filter (·.key == k)).filterMap (·.place?) with
  | [] => false
  | p :: ps => ps.any (· != p)

/-- The key of an entry, with its place if the key is split. -/
def home (entries : List Entry) (e : Entry) : String × Option String :=
  (e.key, if isSplit entries e.key then e.place? else none)

/-- One cluster for each home, in the order of first members. -/
def ofEntries (entries : List Entry) : List Cluster :=
  (groupBy (home entries) entries).map fun g =>
    ofMembers g.1.1 (g.2.map fun e => (e.name, e.location))

/-- The clusters of a table and the names set aside. -/
structure Initial where
  clusters : List Cluster
  unkeyed : List String

/-- The clusters of a table of mentions, before any are merged. -/
def initial (mentions : MentionTable) : Initial :=
  let entries := mentions.toList.map Entry.ofMention
  { clusters := ofEntries (entries.filter (!·.key.isEmpty))
    unkeyed := (entries.filter (·.key.isEmpty)).map (·.name) }

end Prosopography.Cluster
