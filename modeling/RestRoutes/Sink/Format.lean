import RestRoutes.Sink.Records
import RestRoutes.Sink.Route
import RestRoutes.Sink.Source

/-! The formats that routes are written in. -/

namespace RestRoutes.Sink

inductive Format
  | dsl
  | yaml
  | json
  | events
deriving DecidableEq, Repr

namespace Format

def all : List Format := [dsl, yaml, json, events]

def name : Format → String
  | dsl => "dsl"
  | yaml => "yaml"
  | json => "json"
  | events => "events"

def ofName? (name : String) : Option Format := all.find? fun f => f.name == name

def render (f : Format) (es : List Event) : Except Defect String :=
  match f with
  | dsl => Source.render Source.standardIndent es
  | yaml => (Route.build es).map Route.yaml
  | json => (Route.build es).map Route.json
  | events => .ok (Records.json es)

end Format

end RestRoutes.Sink
