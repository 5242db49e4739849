import Hexwire.Settings.Configuration

/-! # Connection settings

The settings of a connection to the bridge are a port, a speed and the choice whether chip select is
released after failures. What a configuration does not set keeps its default, and what is given on
the command line takes precedence over the configuration.
-/

namespace Hexwire

/-- The settings of a connection. -/
structure Settings where
  port : String := "/dev/ttyACM0"
  baudRate : Int := 115200
  releaseOnError : Bool := false
  deriving DecidableEq, Repr

namespace Settings

/-- The speeds that the bridge supports. -/
def speeds : List Int := [4800, 9600, 19200, 38400, 115200]

/-- What a configuration of a connection must keep to. -/
def rule : Schema.Rule :=
  .all [.kinds [.object],
    .fields
      [("port", .all [.kinds [.string], .longEnough 1]),
       ("baudrate", .all [.kinds [.integer], .among (speeds.map Value.int)]),
       ("release_on_error", .kinds [.boolean])]]

/-- The definition of a setting: the kind of its value, a title, what it says and what else its
value must keep to. -/
def entry (kind title description : String) (bounds : List (Value × Value)) : Value :=
  .map ([(.text "type", .text kind), (.text "title", .text title),
    (.text "description", .text description)] ++ bounds)

/-- The definition of the configuration of a connection, of which `rule` is the meaning. -/
def schema : Value :=
  .map
    [(.text "type", .text "object"), (.text "title", .text "SPI bridge connection"),
     (.text "properties", .map
       [(.text "port", entry "string" "Serial port" "Name of the serial port of the bridge dongle."
          [(.text "minLength", .int 1)]),
        (.text "baudrate", entry "integer" "Baud rate" "Speed of the serial line."
          [(.text "enum", .list (speeds.map Value.int))]),
        (.text "release_on_error", entry "boolean" "Release chip select on error"
          "Toggle chip select back when a transaction fails midway." [])]),
     (.text "additionalProperties", .bool false)]

/-- The settings of a configuration. -/
def ofConfiguration (configuration : Configuration) : Except Failure Settings := do
  let standard : Settings := {}
  Configuration.check rule (.map configuration.entries)
  pure {
    port := ← configuration.text "port" (.text standard.port)
    baudRate := ← configuration.integer "baudrate" (.int standard.baudRate)
    releaseOnError := ← configuration.truth "release_on_error" (.bool standard.releaseOnError) }

/-- How settings are shown. -/
def render (settings : Settings) : String :=
  bracketed "BridgeSettings(" ")"
    ["port=" ++ Text.quoted settings.port, "baudrate=" ++ toString settings.baudRate,
     "release_on_error=" ++ (Value.bool settings.releaseOnError).literal]

/-- What is chosen on the command line; an empty text chooses nothing. -/
structure Choice where
  port : Option String := none
  baudRate : Option String := none
  configuration : Option String := none
  releaseOnError : Bool := false

/-- A text that chooses something. -/
def chosen (text : Option String) : Option String := text.filter fun s => !s.isEmpty

/-- The log record of settings that were put together. -/
def record (settings : Settings) : Log.Record :=
  ⟨Log.debug, "hexspi.apps.hexspi", "Bridge settings: " ++ settings.render⟩

/-- Settings with the choices of the command line put over them. -/
def override (settings : Settings) (choice : Choice) : Except Failure Settings := do
  let settings := match chosen choice.port with
    | some port => { settings with port := port }
    | none => settings
  let settings ← match chosen choice.baudRate with
    | none => pure settings
    | some text => match Integer.parse 10 text.toList with
      | .ok speed => pure { settings with baudRate := speed }
      | .error fault => throw (Document.integerFailure 10 text.toList fault)
  pure (if choice.releaseOnError then { settings with releaseOnError := true } else settings)

/-- The settings that the choices of the command line lead to, and what is logged on the way. -/
def ofChoice (tree : FileTree) (choice : Choice) : Except Raised Settings × List Log.Record :=
  let finish (settings : Settings) (records : List Log.Record) :
      Except Raised Settings × List Log.Record :=
    match settings.override choice with
    | .ok settings => (.ok settings, records ++ [settings.record])
    | .error failure => (.error failure.raised, records)
  match chosen choice.configuration with
  | none => finish {} []
  | some path =>
    match Configuration.ofFile tree path with
    | .error raised => (.error raised, [])
    | .ok configuration =>
      match ofConfiguration configuration with
      | .ok settings => finish settings [configuration.record]
      | .error failure => (.error failure.raised, [configuration.record])

end Settings

end Hexwire
