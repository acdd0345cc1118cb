import WordStrip.Text.Blank
import WordStrip.Text.Case
import WordStrip.Text.Split

/-!
# Trace

The stages of a request leave records of what they did, each under a topic. A list of topics says
which records are shown: names between commas, in any case, blanks around them aside; `all` shows
every record. A record is shown as one line with the time, the topic and the level in front.

The stages do not know the topics: they give all their records, and `Topics.shown` selects. The list
of topics stands in a variable and is read from it only when that is asked for (`Tracer.reload`).
-/

namespace WordStrip

/-- What a stage says about what it did. -/
structure Record where
  topic : String := "suggest"
  message : String
  level : String := "DEBUG"
  deriving DecidableEq, Repr

/-- The topics whose records are shown, in lower case. -/
structure Topics where
  names : List String := []
  deriving DecidableEq, Repr

/-- The form in which a topic is compared: in lower case, then without blanks around it. -/
def topicKey (topic : String) : String := Text.trim (Text.lower topic)

namespace Topics

/-- The topics that a text lists. -/
def parse (s : String) : Topics where
  names := (((Text.splitAt ',' s).map Text.trim).filter fun name => !name.isEmpty).map Text.lower

/-- Whether records under a topic are shown. -/
def shows (topics : Topics) (topic : String) : Bool :=
  topics.names.contains "all" || topics.names.contains (topicKey topic)

/-- The records that are shown. -/
def shown (topics : Topics) (records : List Record) : List Record :=
  records.filter fun record => topics.shows record.topic

end Topics

/-- The line of a record, with the time it was left. -/
def Record.line (time : String) (r : Record) : String :=
  "[" ++ time ++ "] [" ++ topicKey r.topic ++ "][" ++ Text.upper r.level ++ "] " ++ r.message

/-- The lines of the records that are shown. The clock is read for each of them, in turn. -/
def Topics.output (topics : Topics) (clock : Nat → String) (records : List Record) : String :=
  String.join ((topics.shown records).mapIdx fun i record => record.line (clock i) ++ "\n")

/-- The variable with the list of topics, and the topics as they were last read from it. -/
structure Tracer where
  listed : Option String := none
  topics : Topics := {}
  deriving DecidableEq, Repr

/-- The tracer with the topics read again. -/
def Tracer.reload (t : Tracer) : Tracer := { t with topics := Topics.parse (t.listed.getD "") }

end WordStrip
