import LogFollow.Journal.Entry
import LogFollow.Json.Printer
import LogFollow.Source.Window

/-! # Page requests

A source answers in pages. A request carries the window and the token that the page before gave. -/

namespace LogFollow
set_option autoImplicit false

open Json

structure Request where
  group : String
  start : Option Int
  stop : Option Int
  limit : Option Nat
  filter : Option String
  streams : List String
  token : Option String
  deriving DecidableEq, Repr

namespace Request

/-- The request for the page of a window behind a token. A limit of zero is none. -/
def ofWindow (w : Window) (token : Option String) : Request where
  group := w.group
  start := w.start
  stop := w.stop
  limit := if 0 < w.limit then some w.limit else none
  filter := w.filter
  streams := w.streams
  token := token

/-- A field that is written only if it has a value. -/
def optional {α : Type} (key : String) (toValue : α → Value) : Option α → List (String × Value)
  | none => []
  | some a => [(key, toValue a)]

/-- The fields of a request that are present, in the order in which they are written. -/
def fields (r : Request) : List (String × Value) :=
  [("logGroupName", .string r.group)]
    ++ optional "startTime" (fun n => .number (.int n)) r.start
    ++ optional "endTime" (fun n => .number (.int n)) r.stop
    ++ optional "limit" (fun n => .number (.int n)) r.limit
    ++ optional "filterPattern" .string r.filter
    ++ (if r.streams.isEmpty then [] else [("logStreamNames", .array (r.streams.map .string))])
    ++ optional "nextToken" .string r.token

def toJson (r : Request) : Value := .object r.fields

def body (r : Request) : String := r.toJson.text

def entry (r : Request) : Journal.Entry where
  level := .debug
  origin := .source
  text := s!"HTTP_BACKEND: FilterLogEvents group={r.group} start={Journal.optionText r.start} end={Journal.optionText r.stop} token={r.token.isSome}"

end Request
end LogFollow
