import AqlGateway.Error
import AqlGateway.Row

/-!
# Cursors

A cursor hands out the rows of a result one by one. The rows are in memory already, or a producer
sends them through a channel that holds a bounded number of them.

* `Channel` — what the producer has still to send and what waits in the channel; `Channel.produce`
  and `Channel.receive?` are the steps of the two sides;
* `Cursor.next` — the next row or error;
* `Cursor.prime`, `Cursor.primed` — waits for the first row, so that an early error shows at once;
* `Cursor.collect` — the remaining rows, or the first error among them;
* `Cursor.remaining` — everything that a cursor has still to hand out.
-/

namespace AqlGateway

/-- A row, or the error that came in its place. -/
abbrev Item := Except Error Row

/-! ### Channels -/

/-- A first-in first-out channel that its producer closes after the last item. -/
structure Channel where
  /-- The number of items that may wait; at least one. -/
  capacity : Nat
  /-- The items that wait in the channel. -/
  queue : List Item
  /-- The items that the producer has still to send. -/
  unsent : List Item

namespace Channel

/-- A channel for `requested` waiting items, but at least one. -/
def ofItems (requested : Nat) (items : List Item) : Channel := ⟨max requested 1, [], items⟩

/-- The producer sends its next item if there is room. -/
def produce (channel : Channel) : Channel :=
  match channel.unsent with
  | [] => channel
  | item :: rest =>
    if channel.queue.length < channel.capacity then
      { channel with queue := channel.queue ++ [item], unsent := rest }
    else channel

/-- The consumer takes the next item, waiting for the producer if none waits; none when the channel
is closed. -/
def receive? (channel : Channel) : Option (Item × Channel) :=
  match channel.queue, channel.unsent with
  | item :: rest, _ => some (item, { channel with queue := rest })
  | [], item :: rest => some (item, { channel with unsent := rest })
  | [], [] => none

def items (channel : Channel) : List Item := channel.queue ++ channel.unsent

end Channel

/-! ### Cursors -/

/-- Where the rows of a cursor come from. -/
inductive Source
  | buffered (rows : List Row)
  | streaming (channel : Channel)

/-- A cursor: its source, and a row that was looked at ahead of time. -/
structure Cursor where
  source : Source
  pending : Option Row

namespace Cursor

def ofRows (rows : List Row) : Cursor := ⟨.buffered rows, none⟩

/-- A cursor over items that are sent through a channel. -/
def ofChannel (channel : Channel) : Cursor := ⟨.streaming channel, none⟩

def take? : Source → Option (Item × Source)
  | .buffered [] => none
  | .buffered (row :: rest) => some (.ok row, .buffered rest)
  | .streaming channel => channel.receive?.map fun (item, rest) => (item, .streaming rest)

/-- The next row or error, and the cursor behind it. -/
def next (cursor : Cursor) : Option Item × Cursor :=
  match cursor.pending with
  | some row => (some (.ok row), { cursor with pending := none })
  | none => match take? cursor.source with
    | some (item, source) => (some item, ⟨source, none⟩)
    | none => (none, cursor)

/-- Looks at the first row without handing it out; an error in its place is handed out. -/
def prime (cursor : Cursor) : Except Error Unit × Cursor :=
  match cursor.next with
  | (some (.ok row), rest) => (.ok (), { rest with pending := some row })
  | (some (.error e), rest) => (.error e, rest)
  | (none, rest) => (.ok (), rest)

/-- A cursor that was looked into, or the error that came in place of its first row. -/
def primed (cursor : Cursor) : Except Error Cursor :=
  match cursor.prime with
  | (.ok (), rest) => .ok rest
  | (.error e, _) => .error e

def sourceItems : Source → List Item
  | .buffered rows => rows.map .ok
  | .streaming channel => channel.items

/-- Everything that a cursor has still to hand out. -/
def remaining (cursor : Cursor) : List Item :=
  (cursor.pending.map Except.ok).toList ++ sourceItems cursor.source

/-- Calls `next` until the cursor ends or fails, at most `steps` times. -/
def collectWithin : (steps : Nat) → Cursor → Except Error (List Row)
  | 0, _ => .ok []
  | steps + 1, cursor =>
    match cursor.next with
    | (some (.ok row), rest) => (collectWithin steps rest).map (row :: ·)
    | (some (.error e), _) => .error e
    | (none, _) => .ok []

/-- The remaining rows, or the first error among them. -/
def collect (cursor : Cursor) : Except Error (List Row) :=
  collectWithin (cursor.remaining.length + 1) cursor

def sourceName : Source → String
  | .buffered _ => "buffered"
  | .streaming _ => "streaming"

def describe (cursor : Cursor) : String :=
  "RowCursor \x7b source: \"" ++ sourceName cursor.source ++ "\", .. \x7d"

end Cursor

end AqlGateway
