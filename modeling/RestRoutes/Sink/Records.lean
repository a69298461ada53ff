import RestRoutes.Event.Argument

/-! Events as records. -/

namespace RestRoutes.Sink.Records

/-- One event as a record of its name and, unless it is bare, its argument. -/
def ofEvent (e : Event) : Value :=
  .ofNamed <| ("event", .str e.name) ::
    match e.argument with
    | .absent => []
    | argument => [("value", argument.value)]

def json (events : List Event) : String :=
  Json.render Json.indented (.list (events.map ofEvent))

end RestRoutes.Sink.Records
