import QueryGateway.Config.Basic
import QueryGateway.Gateway.Error
import QueryGateway.Program
import QueryGateway.System.Log
import QueryGateway.Text.Utf8
import QueryGateway.Wire.Connection

/-! # The machine

What a command may ask of the machine it runs on: variables of its environment, files, output,
the log, one connection at a time, and listeners for the gateway.
-/

namespace QueryGateway

/-- What the gateway works with while it runs. -/
structure Site where
  config : Config
  tables : Tables
  broker : Broker
  log : Log

/-- What a command may ask for. -/
inductive Host.Request where
  /-- The value of a variable of the environment. -/
  | environment (name : String)
  /-- Whether there is something at a path. -/
  | present (path : String)
  /-- The bytes of a file. -/
  | content (path : String)
  /-- Replaces the content of a file. -/
  | store (path text : String)
  /-- Creates a directory and those above it. -/
  | createDirectory (path : String)
  /-- Writes a line of output. -/
  | print (line : String)
  /-- Opens the place where log lines go. -/
  | openLog (sink : LogSink)
  | log (sink : LogSink) (level : LogLevel) (line : String)
  /-- Opens a connection; an earlier one is dropped. -/
  | connect (address : String)
  /-- A request to the open connection. -/
  | wire (request : Wire.Request)
  | bind (listener : Listener) (address : String)
  /-- Runs both sides of the gateway on the bound listeners until it is told to stop. -/
  | serve (site : Site)

/-- The interface of a command. -/
def Host : Interface where
  Request := Host.Request
  Answer
    | .environment _ => Option String
    | .present _ => Bool
    | .content _ => Except Fault Bytes
    | .store _ _ => Except Fault Unit
    | .createDirectory _ => Except Fault Unit
    | .print _ => Unit
    | .openLog _ => Unit
    | .log _ _ _ => Unit
    | .connect _ => Except Fault Unit
    | .wire request => Wire.Answer request
    | .bind _ _ => Except Fault Unit
    | .serve _ => Broker

namespace Host

/-- The value of a variable of the environment. -/
def environment (name : String) : Program Host (Option String) :=
  .ask (I := Host) (.environment name)

/-- Whether there is something at a path. -/
def isPresent (path : String) : Program Host Bool :=
  .ask (I := Host) (.present path)

/-- The text of a file. -/
def text (path : String) : Program Host (Except Fault String) :=
  .perform (I := Host) (.content path) fun
    | .error fault => .done (.error fault)
    | .ok bytes => .done (bytes.text?.elim (.error .notText) .ok)

/-- Replaces the content of a file. -/
def store (path text : String) : Program Host (Except Fault Unit) :=
  .ask (I := Host) (.store path text)

/-- Creates a directory and those above it. -/
def createDirectory (path : String) : Program Host (Except Fault Unit) :=
  .ask (I := Host) (.createDirectory path)

/-- Writes a line of output. -/
def print (line : String) : Program Host Unit :=
  .ask (I := Host) (.print line)

/-- Opens the place where log lines go. -/
def openLog (sink : LogSink) : Program Host Unit :=
  .ask (I := Host) (.openLog sink)

/-- Writes a log line, if the log admits its level. -/
def log (log : Log) (level : LogLevel) (line : String) : Program Host Unit :=
  if log.admits level then .ask (I := Host) (.log log.sink level line) else .done ()

/-- Opens a connection. -/
def connect (address : String) : Program Host (Except Fault Unit) :=
  .ask (I := Host) (.connect address)

/-- Opens a listener. -/
def bind (listener : Listener) (address : String) : Program Host (Except Fault Unit) :=
  .ask (I := Host) (.bind listener address)

/-- Runs the gateway until it is told to stop. The result is what its queues then hold. -/
def serve (site : Site) : Program Host Broker :=
  .ask (I := Host) (.serve site)

/-- Lets a component talk on the open connection. -/
def onWire : Program Wire α → Program Host α
  | .done a => .done a
  | .perform request next => .perform (I := Host) (.wire request) fun answer => onWire (next answer)

end Host

end QueryGateway
