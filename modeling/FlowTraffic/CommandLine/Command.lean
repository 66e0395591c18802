import FlowTraffic.CommandLine.Param
import FlowTraffic.Net.Endpoint
import FlowTraffic.Netflow.Generate

/-!
# Commands

The commands with their arguments and what is assumed where an argument is not given.
-/

namespace FlowTraffic.CommandLine

open Netflow (Schema Traffic)

/-! ## Arguments -/

/-- A collector by host name and port. -/
structure Server where
  host : String := "127.0.0.1"
  port : UInt16 := 9995
  deriving DecidableEq

/-- Where a collector listens. -/
structure Listener where
  ip : IpAddr := .v4 (.ofOctets 127 0 0 1)
  port : UInt16 := 9995
  deriving DecidableEq

def Listener.endpoint (l : Listener) : Endpoint := { ip := l.ip, port := l.port }

/-- The directory of a recording if none is named. -/
def defaultDirectory : String := "recorded_flows"

structure SingleArgs where
  server : Server := {}
  srcPort : UInt16 := 0
  count : UInt32 := 1
  hexdump : Bool := false
  traffic : Traffic := {}
  deriving DecidableEq

structure BarrageArgs where
  server : Server := {}
  workers : UInt16 := 4
  delayMillis : Nat := 100
  config : Option String := none
  web : Bool := false
  webIp : IpAddr := .v4 .unspecified
  webPort : UInt16 := 8080
  traffic : Traffic := {}
  deriving DecidableEq

structure RecordArgs where
  listener : Listener := {}
  directory : String := defaultDirectory
  deriving DecidableEq

structure ReplayArgs where
  server : Server := {}
  delayMillis : Nat := 100
  directory : String := defaultDirectory
  looping : Bool := false
  workers : UInt16 := 1
  updateTimestamps : Bool := false
  deriving DecidableEq

structure ProxyArgs where
  listener : Listener := {}
  targets : List Endpoint := []
  deriving DecidableEq

/-- What the program is asked to do. -/
inductive Command
  | single (args : SingleArgs)
  | barrage (args : BarrageArgs)
  | record (args : RecordArgs)
  | replay (args : ReplayArgs)
  | proxy (args : ProxyArgs)
  | version
  deriving DecidableEq

/-- What every command takes. -/
structure Globals where
  verbose : Bool := false
  prometheus : Option Endpoint := none
  deriving DecidableEq

/-- A command line that was understood. -/
structure Invocation where
  command : Command
  globals : Globals
  deriving DecidableEq

/-! ## Values -/

/-- A value that a reader takes or finds bad. -/
def valueOf {α β : Type} (read : String → Option β) (set : β → α → α) : Effect α :=
  .value false fun s => (read s).elim (.error .badValue) fun b => .ok (set b)

def textOf {α : Type} (set : String → α → α) : Effect α := .value false fun s => .ok (set s)

/-- A path. An empty one counts as none. -/
def pathOf {α : Type} (set : String → α → α) : Effect α :=
  .value false fun s => if s.isEmpty then .error .missingValue else .ok (set s)

def word16? (s : String) : Option UInt16 := (Text.nonnegative? 65535 s.toList).map UInt16.ofNat

def word32? (s : String) : Option UInt32 := (Text.nonnegative? 0xFFFFFFFF s.toList).map UInt32.ofNat

def millis? (s : String) : Option Nat := Text.unsigned? 0xffffffffffffffff s.toList

def range? (s : String) : Option Cidr := (Cidr.parse s).toOption

def schema? (s : String) : Option Schema := (Schema.parse s).toOption

/-! ## Parameters -/

/-- Arguments of a level together with those that every level takes. -/
abbrev WithGlobals (α : Type) := Globals × α

def globalParams {α : Type} : List (Param (WithGlobals α)) := [
  ⟨"verbose", some 'v', .flag fun (g, a) => ({ g with verbose := true }, a)⟩,
  ⟨"prometheus-addr", none,
    valueOf Endpoint.ofString? fun e (g, a) => ({ g with prometheus := some e }, a)⟩,
  ⟨"help", some 'h', .stop .help⟩]

/-- A parameter of one command at a level with globals. -/
def Param.lift {α : Type} (p : Param α) : Param (WithGlobals α) :=
  ⟨p.long, p.short, match p.effect with
    | .flag set => .flag fun (g, a) => (g, set a)
    | .value repeats read => .value repeats fun s => do
      let set ← read s
      return fun (g, a) => (g, set a)
    | .stop why => .stop why⟩

def trafficParams {α : Type} (change : (Traffic → Traffic) → α → α) : List (Param α) := [
  ⟨"src-range", none, valueOf range? fun v => change ({ · with src := v })⟩,
  ⟨"dst-range", none, valueOf range? fun v => change ({ · with dst := v })⟩,
  ⟨"schema", none, valueOf schema? fun v => change ({ · with schema := v })⟩]

def serverParams {α : Type} (change : (Server → Server) → α → α) : List (Param α) := [
  ⟨"server", some 's', textOf fun v => change ({ · with host := v })⟩,
  ⟨"port", some 'p', valueOf word16? fun v => change ({ · with port := v })⟩]

def listenerParams {α : Type} (change : (Listener → Listener) → α → α) : List (Param α) := [
  ⟨"ip", some 'i', valueOf IpAddr.ofString? fun v => change ({ · with ip := v })⟩,
  ⟨"port", some 'p', valueOf word16? fun v => change ({ · with port := v })⟩]

def singleParams : List (Param SingleArgs) :=
  serverParams (fun f a => { a with server := f a.server }) ++ [
    ⟨"src-port", none, valueOf word16? fun v a => { a with srcPort := v }⟩,
    ⟨"count", some 'c', valueOf word32? fun v a => { a with count := v }⟩,
    ⟨"hexdump", none, .flag fun a => { a with hexdump := true }⟩] ++
  trafficParams fun f a => { a with traffic := f a.traffic }

def barrageParams : List (Param BarrageArgs) :=
  serverParams (fun f a => { a with server := f a.server }) ++ [
    ⟨"workers", none, valueOf word16? fun v a => { a with workers := v }⟩,
    ⟨"delay", none, valueOf millis? fun v a => { a with delayMillis := v }⟩,
    ⟨"config", none, pathOf fun v a => { a with config := some v }⟩,
    ⟨"web", none, .flag fun a => { a with web := true }⟩,
    ⟨"web-ip", none, valueOf IpAddr.ofString? fun v a => { a with webIp := v }⟩,
    ⟨"web-port", none, valueOf word16? fun v a => { a with webPort := v }⟩] ++
  trafficParams fun f a => { a with traffic := f a.traffic }

def recordParams : List (Param RecordArgs) :=
  listenerParams (fun f a => { a with listener := f a.listener }) ++ [
    ⟨"db", none, pathOf fun v a => { a with directory := v }⟩]

def replayParams : List (Param ReplayArgs) :=
  serverParams (fun f a => { a with server := f a.server }) ++ [
    ⟨"delay", none, valueOf millis? fun v a => { a with delayMillis := v }⟩,
    ⟨"db", none, pathOf fun v a => { a with directory := v }⟩,
    ⟨"loop", none, .flag fun a => { a with looping := true }⟩,
    ⟨"workers", none, valueOf word16? fun v a => { a with workers := v }⟩,
    ⟨"updatets", none, .flag fun a => { a with updateTimestamps := true }⟩]

def proxyParams : List (Param ProxyArgs) :=
  listenerParams (fun f a => { a with listener := f a.listener }) ++ [
    ⟨"target", none, .value true fun s =>
      (Endpoint.ofString? s).elim (.error .badValue) fun e =>
        .ok fun a => { a with targets := a.targets ++ [e] }⟩]

/-! ## Reading -/

def commandNames : List String := ["single", "barrage", "record", "replay", "proxy", "version"]

def top : Level (WithGlobals Unit) where
  params := globalParams ++ [⟨"version", some 'V', .stop .version⟩]
  commands := commandNames

def readArgs {α : Type} (params : List (Param α)) (start : α) (words : List String) :
    Except UsageError (WithGlobals α) := do
  let level : Level (WithGlobals α) := { params := params.map Param.lift ++ globalParams }
  let (r, _) ← level.read false words { args := ({}, start) }
  return (← r.settle).args

def readCommand (name : String) (words : List String) : Except UsageError (Globals × Command) :=
  match name with
  | "single" => do let (g, a) ← readArgs singleParams {} words; return (g, .single a)
  | "barrage" => do let (g, a) ← readArgs barrageParams {} words; return (g, .barrage a)
  | "record" => do let (g, a) ← readArgs recordParams {} words; return (g, .record a)
  | "replay" => do let (g, a) ← readArgs replayParams {} words; return (g, .replay a)
  | "proxy" => do
    let (g, a) ← readArgs proxyParams {} words
    if a.targets.isEmpty then throw .missingRequired
    return (g, .proxy a)
  | "version" => do let (g, _) ← readArgs [] () words; return (g, .version)
  | _ =>
    -- the word is `help`
    match words with
    | [] => throw .help
    | [w] => throw (if top.isCommand w then .help else .unknownCommand)
    | _ => throw .unknownCommand

/-- Reads a command line without the program's name. What is given after the command counts more
than what is given before it. -/
def parse (words : List String) : Except UsageError Invocation := do
  let (r, next) ← top.read false words { args := ({}, ()) }
  match next with
  | none =>
    let r ← r.settle
    throw (if r.given.isEmpty then .helpForNothing else .missingCommand)
  | some (name, words) =>
    let (inner, command) ← readCommand name words
    let outer := (← r.settle).args.1
    return {
      command
      globals := {
        verbose := inner.verbose || outer.verbose
        prometheus := inner.prometheus.or outer.prometheus } }

end FlowTraffic.CommandLine
