import Outreach.Delivery.Vendor
import Outreach.Office.Collection
import Outreach.Store.Tables
import Outreach.Store.Upsert
import Outreach.Suggestion.Round

/-!
# The office

The office is everything that the program works with at one moment: the clock, the tables, a write
processor for each table, the dead letters of all of them, the vendor, and whoever is asked for
suggestions. A flush hands a batch of one processor to its table; stopping a processor drains it.
-/

namespace Outreach

/-- The tables, the processors and everything around them. -/
structure Office where
  clock : DateTime
  /-- How many identifiers have been drawn. -/
  drawn : Nat
  tables : PerCollection Store.Table
  processors : PerCollection Writes.Processor
  /-- Dead letters of all processors in order. -/
  letters : List Writes.DeadLetter
  vendor : Delivery.Vendor
  /-- Why customers cannot be fetched, if they cannot. -/
  outage : Option String
  /-- How many names an audience sample has. -/
  sampleSize : Nat
  /-- How many suggestions are returned. -/
  suggestionLimit : Int
  /-- Whom to ask for suggestions, if that was set up properly. -/
  advisers : Option (List Suggestion.Provider)

namespace Office

/-- The table schema of a collection. -/
def schema : Collection → Store.TableSchema
  | .customers => Store.customerSchema
  | .orders => Store.orderSchema
  | .segments => Store.segmentSchema
  | .campaigns => Store.campaignSchema
  | .logs => Store.logSchema

/-- An office with empty tables and idle processors. -/
def opened (clock : DateTime) (config : Writes.Config) (vendor : Delivery.Vendor) : Office where
  clock := clock
  drawn := 0
  tables := .build fun c => .empty (schema c)
  processors := .build fun c => .idle c.word config
  letters := []
  vendor := vendor
  outage := none
  sampleSize := 5
  suggestionLimit := 3
  advisers := none

/-- The identifier of a number: its hexadecimal digits, padded to 32. -/
def identifier (number : Nat) : String := String.ofList (Decimal.writeHex 32 number)

/-- The table of a collection. -/
def table (c : Collection) (o : Office) : Store.Table := o.tables.get c

/-- The processor of a collection. -/
def processor (c : Collection) (o : Office) : Writes.Processor := o.processors.get c

/-- Queues a write with the processor of a collection, or refuses it and changes nothing. -/
def enqueue (c : Collection) (id : String) (patch : Writes.Patch) (o : Office) :
    Except Writes.Refusal Office := do
  let p ← (o.processor c).enqueue 0 id patch
  .ok { o with processors := o.processors.set c p }

/-- Puts a processor and its table back, and files the dead letters that came with them. -/
def settle (c : Collection) (p : Writes.Processor) (t : Store.Table) (o : Office) : Office :=
  { o with
    processors := o.processors.set c p
    tables := o.tables.set c t
    letters := o.letters ++ p.deadLetters.drop (o.processor c).deadLetters.length }

/-- Flushes the processor of a collection once. -/
def flush (c : Collection) (o : Office) : Writes.Report × Office :=
  let (report, p, t) := (o.processor c).flushThrough (Store.Table.sink o.clock) (o.table c)
  (report, o.settle c p t)

/-- Stops the processor of a collection. -/
def stop (c : Collection) (o : Office) : List Writes.Report × Office :=
  let (reports, p, t) := (o.processor c).stopThrough (Store.Table.sink o.clock) (o.table c)
  (reports, o.settle c p t)

/-- Stops all processors and closes the connection to the vendor. -/
def close (o : Office) : Office :=
  let stopped := Collection.all.foldl (fun o c => (o.stop c).2) o
  { stopped with vendor := stopped.vendor.close }

end Office

end Outreach
