import CachePurge.Json.Record
import CachePurge.Settings.Variable
import CachePurge.Text.Blank

/-!
Settings of the edge fleet: where its nodes are, how the site is called, how many tags go into one
request, how many requests are under way at once, and how long they may take. They come from
variables, then brought into a normal form, or from JSON as they are.
-/

namespace CachePurge

structure FleetSettings where
  edgeAddresses : List String
  siteIdentifier : String
  tagGroupSize : UInt64
  concurrency : UInt64
  /-- In milliseconds, as the next one. -/
  connectTimeout : UInt64
  requestTimeout : UInt64
  deriving DecidableEq, Repr

namespace FleetSettings

def defaultTagGroupSize : UInt64 := 15
def defaultConcurrency : UInt64 := 6
def defaultConnectTimeout : UInt64 := 1500
def defaultRequestTimeout : UInt64 := 3000

def ofSite (site : String) (addresses : List String) : FleetSettings :=
  ⟨addresses, site, defaultTagGroupSize, defaultConcurrency, defaultConnectTimeout,
    defaultRequestTimeout⟩

/-- No blanks around addresses, no empty address, and no size of zero. -/
def normalize (s : FleetSettings) : FleetSettings :=
  { s with
    edgeAddresses := (s.edgeAddresses.map Blank.trim).filter (!·.isEmpty)
    tagGroupSize := max s.tagGroupSize 1
    concurrency := max s.concurrency 1 }

def variableMark : String := "PURGE_"

/-- The settings as far as variables have given them. -/
structure Draft where
  edgeAddresses : Option (List String)
  siteIdentifier : Option String
  tagGroupSize : Option UInt64
  concurrency : Option UInt64
  connectTimeout : Option UInt64
  requestTimeout : Option UInt64
  deriving DecidableEq, Repr

namespace Draft

def empty : Draft := ⟨none, none, none, none, none, none⟩

def fresh {α : Type} (old : Option α) (e : Entry) (read : Except EnvironmentFault α) :
    Except EnvironmentFault (Option α) :=
  if old.isSome then .error (.duplicate e.field) else read.map some

def splitAddresses (value : String) : List String :=
  (value.toList.splitOn ',').map String.ofList

def add (d : Draft) (e : Entry) : Except EnvironmentFault Draft := do
  match e.field with
  | "edge_addresses" =>
    return { d with edgeAddresses := ← fresh d.edgeAddresses e (.ok (splitAddresses e.value)) }
  | "site_identifier" =>
    return { d with siteIdentifier := ← fresh d.siteIdentifier e (.ok e.value) }
  | "tag_group_size" => return { d with tagGroupSize := ← fresh d.tagGroupSize e e.number }
  | "concurrency" => return { d with concurrency := ← fresh d.concurrency e e.number }
  | "connect_timeout_ms" => return { d with connectTimeout := ← fresh d.connectTimeout e e.number }
  | "request_timeout_ms" => return { d with requestTimeout := ← fresh d.requestTimeout e e.number }
  | _ => return d

/-- Fills what is not given; only the site has no default. -/
def finish (d : Draft) : Except EnvironmentFault FleetSettings :=
  match d.siteIdentifier with
  | none => .error (.missing "site_identifier")
  | some site => .ok ⟨d.edgeAddresses.getD [], site, d.tagGroupSize.getD defaultTagGroupSize,
      d.concurrency.getD defaultConcurrency, d.connectTimeout.getD defaultConnectTimeout,
      d.requestTimeout.getD defaultRequestTimeout⟩

end Draft

/-- The settings that variables give, in their normal form. -/
def ofVariables (vars : List Variable) : Except EnvironmentFault FleetSettings := do
  let draft ← (Variable.entries variableMark vars).foldlM Draft.add Draft.empty
  return (← draft.finish).normalize

def fieldNames : List String :=
  ["edge_addresses", "site_identifier", "tag_group_size", "concurrency", "connect_timeout_ms",
    "request_timeout_ms"]

def ofJson? (j : Json) : Option FleetSettings := do
  match ← j.record? fieldNames with
  | [addresses, site, size, concurrency, connect, request] =>
    return {
      edgeAddresses := ← Json.orDefault Json.asStrings? [] addresses
      siteIdentifier := ← site.bind Json.asString?
      tagGroupSize := ← Json.orDefault Json.asNatural? defaultTagGroupSize size
      concurrency := ← Json.orDefault Json.asNatural? defaultConcurrency concurrency
      connectTimeout := ← Json.orDefault Json.asNatural? defaultConnectTimeout connect
      requestTimeout := ← Json.orDefault Json.asNatural? defaultRequestTimeout request }
  | _ => none

def toJson (s : FleetSettings) : Json :=
  .object [("edge_addresses", Json.ofStrings s.edgeAddresses),
    ("site_identifier", .string s.siteIdentifier),
    ("tag_group_size", Json.ofNat s.tagGroupSize.toNat),
    ("concurrency", Json.ofNat s.concurrency.toNat),
    ("connect_timeout_ms", Json.ofNat s.connectTimeout.toNat),
    ("request_timeout_ms", Json.ofNat s.requestTimeout.toNat)]

end FleetSettings
end CachePurge
