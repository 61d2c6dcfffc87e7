/-!
# Log records

The operations of the library return the records they emit. `Log.Settings.deliver` says which of
them pass the threshold, and where they go: to the root, or to the one sink that is installed.
-/

namespace DocStore.Log

/-- How grave a record is. -/
inductive Level where
  | info
  | warning
  | error
  deriving DecidableEq

/-- The weight of a level, to be compared with a threshold. -/
def Level.weight : Level → Int
  | .info => 20
  | .warning => 30
  | .error => 40

/-- The name of a level. -/
def Level.name : Level → String
  | .info => "INFO"
  | .warning => "WARNING"
  | .error => "ERROR"

/-- The part of the library that speaks. -/
inductive Channel where
  | document
  | query
  | projection
  | update
  | engine
  | registry
  deriving DecidableEq

/-- The full name of a channel. -/
def Channel.name : Channel → String
  | .document => "mongolet.document"
  | .query => "mongolet.query"
  | .projection => "mongolet.projection"
  | .update => "mongolet.update"
  | .engine => "mongolet.engine"
  | .registry => "mongolet.registry"

/-- One record. -/
structure Record where
  level : Level
  channel : Channel
  message : String
  deriving DecidableEq

/-- The root's own threshold, which holds where none is set. -/
def rootThreshold : Int := 30

/-- Which records are delivered, and where. -/
structure Settings where
  /-- Records below this weight are dropped; zero leaves the choice to the root. -/
  threshold : Int
  /-- The sink that takes all records in the place of the root. -/
  sink : Option String

namespace Settings

/-- Nothing set. -/
def default : Settings := ⟨0, none⟩

/-- The threshold in force. -/
def effective (s : Settings) : Int := if s.threshold = 0 then rootThreshold else s.threshold

/-- Where records go. -/
def destination (s : Settings) : String := s.sink.getD "root"

/-- The records that are delivered, in order. -/
def deliver (s : Settings) (records : List Record) : List Record :=
  records.filter fun r => s.effective ≤ r.level.weight

end Settings

end DocStore.Log
