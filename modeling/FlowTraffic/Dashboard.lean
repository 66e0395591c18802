import FlowTraffic.Sender.Barrage.Config
import FlowTraffic.Stats

/-!
# The dashboard

A barrage can be watched over HTTP. There are two pages that say it is up, the workers' statistics
as JSON, and one page that shows statistics and configuration as tables.
-/

namespace FlowTraffic.Dashboard

open Sender (Barrage.Config)

structure Response where
  status : Nat := 200
  contentType : String
  body : String
  deriving DecidableEq, Repr

namespace Response

def json (body : String) : Response := { contentType := "application/json", body }

def html (body : String) : Response := { contentType := "text/html; charset=utf-8", body }

def plain (status : Nat) (body : String) : Response :=
  { status, contentType := "text/plain; charset=utf-8", body }

end Response

/-! ## JSON -/

/-- A JSON string without characters that need an escape. -/
def jsonString (text : String) : String := "\"" ++ text ++ "\""

/-- A JSON object whose values are written already. -/
def jsonObject (entries : List (String × String)) : String :=
  "\x7b" ++ ",".intercalate (entries.map fun (key, value) => jsonString key ++ ":" ++ value) ++
    "\x7d"

def workerJson (r : WorkerReport) : String := jsonObject [
  ("WorkerID", toString r.worker), ("SourceID", toString r.source),
  ("FlowsSent", toString r.sent.flows), ("Cycles", toString r.sent.cycles),
  ("BytesSent", toString r.sent.bytes), ("PacketsSent", toString r.sent.packets)]

def statsJson (s : Snapshot) : String :=
  jsonObject (s.workers.entries.map fun (worker, r) => (toString worker, workerJson r))

def healthJson (message : String) : String :=
  jsonObject [("status", jsonString "OK"), ("message", jsonString message)]

/-! ## Tables -/

def cells (texts : List String) : String := String.join (texts.map fun t => s!"<td>{t}</td>")

def headings (texts : List String) : String := String.join (texts.map fun t => s!"<th>{t}</th>")

def row (content : String) : String := s!"<tr>{content}</tr>"

/-- The amounts in the order of the tables' columns. -/
def amounts (a : Amounts) : List String :=
  [toString a.flows, toString a.cycles, Text.byteCount a.bytes, toString a.packets]

def amountHeadings : List String := ["Flows Sent", "Cycles", "Bytes Sent", "Packets Sent"]

def workerRow (r : WorkerReport) : String :=
  row (cells ([toString r.worker, toString r.source] ++ amounts r.sent))

def settingRow (name value : String) : String := row (headings [name] ++ cells [value])

def page (s : Snapshot) (config : Barrage.Config) : String :=
  String.join <| List.map (· ++ "\n") [
    "<!DOCTYPE html>",
    "<html>",
    "<head><meta charset=\"utf-8\"><meta http-equiv=\"refresh\" content=\"5\">" ++
      "<title>Flowgre Dashboard</title></head>",
    "<body>",
    "<h1>Flowgre Dashboard</h1>",
    "<h2>Totals</h2>",
    "<table>",
    row (headings amountHeadings),
    row (cells (amounts s.totals)),
    "</table>",
    "<h2>Workers</h2>",
    "<table>",
    row (headings (["Worker ID", "Source ID"] ++ amountHeadings)),
    String.join (s.workers.values.map workerRow),
    "</table>",
    "<h2>Configuration</h2>",
    "<table>",
    settingRow "Target" config.target.text,
    settingRow "Workers" (toString config.workers),
    settingRow "Delay" s!"{config.delay / 1000}ms",
    settingRow "Schema" config.traffic.schema.name,
    settingRow "Source Range" config.traffic.src.text,
    settingRow "Destination Range" config.traffic.dst.text,
    "</table>",
    "</body>",
    "</html>"]

/-! ## Requests -/

/-- What follows the scheme of an absolute target. A target that starts with a slash has none. -/
def afterScheme? : List Char → Option (List Char)
  | ':' :: '/' :: '/' :: rest => some rest
  | '/' :: _ | [] => none
  | _ :: rest => afterScheme? rest

/-- Whether a query or a fragment starts with the character. -/
def endsPath (c : Char) : Bool := c = '?' || c = '#'

/-- The path of a request target, without host, query and fragment. Without a path it is the
root. -/
def pathOf (target : String) : String :=
  let cs :=
    match afterScheme? target.toList with
    | some rest => rest.dropWhile fun c => c ≠ '/' && !endsPath c
    | none => target.toList
  let path := cs.takeWhile (!endsPath ·)
  if path.isEmpty then "/" else String.ofList path

/-- The answer to a request. An answer to `HEAD` has no body. -/
def respond (s : Snapshot) (config : Barrage.Config) (method target : String) : Response :=
  if method = "HEAD" then .plain 405 ""
  else if method ≠ "GET" then .plain 405 "method not allowed"
  else match pathOf target with
    | "/" => .json (healthJson "Flowgre is flinging packets!")
    | "/health" => .json (healthJson "Everything is OK!")
    | "/stats" => .json (statsJson s)
    | "/dashboard" => .html (page s config)
    | _ => .plain 404 "not found"

end FlowTraffic.Dashboard
