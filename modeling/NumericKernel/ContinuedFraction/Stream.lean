import NumericKernel.ContinuedFraction.Expansion

/-!
# Streams of digits

A fraction can be read by any number of streams.  Each starts at the integer part
when it is first pulled, goes its own way, and is finished by a fault.
-/

namespace NumericKernel.ContinuedFraction

/-- How far a reader of a fraction has come. -/
inductive Stream where
  | fresh
  | running (s : State)
  | finished

/-- Why a pull gives no digit: a fault occurs, or has occurred before. -/
inductive Ending where
  | fault (f : Fault)
  | finished

namespace Stream

/-- What the next pull finds, with the requests that it makes.  A stream that has not been
pulled yet asks for the first state first. -/
def next (f : ContinuedFraction) : Stream → List Request × Except Ending (Int × State)
  | .fresh =>
    let found := f.starting.bind f.asking
    (found.requests, found.answer.mapError .fault)
  | .running s =>
    let found := f.asking s
    (found.requests, found.answer.mapError .fault)
  | .finished => ([], .error .finished)

/-- The requests of the next pull. -/
def requests (f : ContinuedFraction) (stream : Stream) : List Request := (stream.next f).1

/-- The next digit and the stream after it. -/
def pull (f : ContinuedFraction) (stream : Stream) : Except Ending Int × Stream :=
  match (stream.next f).2 with
  | .ok (digit, s) => (.ok digit, .running s)
  | .error ending => (.error ending, .finished)

/-- This many digits, or those before the ending, and the stream after them. -/
def take (f : ContinuedFraction) : Nat → Stream → List Int × Option Ending × Stream
  | 0, stream => ([], none, stream)
  | count + 1, stream =>
    match stream.pull f with
    | (.ok digit, next) =>
      let (rest, ending, last) := take f count next
      (digit :: rest, ending, last)
    | (.error ending, next) => ([], some ending, next)

end Stream

/-! ## Sessions -/

/-- What a host can do with the readers of a fraction. -/
inductive Step where
  /-- Starts a stream, in the place of an earlier one of the same name. -/
  | start (name : String)
  | take (name : String) (count : Nat)

/-- What a step gives to the host. -/
inductive Answer where
  | started
  | digits (ds : List Int) (ending : Option Ending)

/-- The streams of a session, by name. -/
abbrev Streams := List (String × Stream)

namespace Streams

/-- The stream of a name; one that was never started is finished. -/
def find (streams : Streams) (name : String) : Stream := (streams.lookup name).getD .finished

/-- The streams with one put in under a name. -/
def put (streams : Streams) (name : String) (stream : Stream) : Streams :=
  (name, stream) :: streams.filter (·.1 != name)

end Streams

/-- One step of a session. -/
def step (f : ContinuedFraction) (streams : Streams) : Step → Answer × Streams
  | .start name => (.started, streams.put name .fresh)
  | .take name count =>
    let (ds, ending, stream) := (streams.find name).take f count
    (.digits ds ending, streams.put name stream)

/-- The answers to the steps of a session. -/
def run (f : ContinuedFraction) (streams : Streams) : List Step → List Answer
  | [] => []
  | s :: rest =>
    let (answer, next) := f.step streams s
    answer :: run f next rest

end NumericKernel.ContinuedFraction
