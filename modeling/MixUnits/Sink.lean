/-!
# Sinks

A sink takes the lines of a printer.  It may take a part of what it is offered, ask
to be offered it again, or fail.  `writeAll` offers the rest until nothing is left;
a sink that takes nothing at all has failed.

Whatever a sink does while it is in use can be put down in a script: its answers to one
offer after another, and the failures of its flushes.  The other kinds are those that
need no script.
-/

namespace MixUnits

/-- The answer of a sink to some bytes. -/
inductive SinkAnswer where
  | took (count : Nat)
  | interrupted
  | failed (cause : String)
  deriving DecidableEq, Repr

/-- How a sink answers to what it is offered. -/
inductive SinkKind where
  /-- It takes everything. -/
  | endless
  /-- It takes nothing and fails. -/
  | broken (cause : String)
  /-- It takes a limited number of bytes at a time. -/
  | chunked (limit : Nat)
  /-- It takes a limited number of bytes in all and then fails. -/
  | limited (limit : Nat) (cause : String)
  /-- It takes a limited number of bytes in all and then none. -/
  | filling (limit : Nat)
  /-- It asks every other time to be offered the bytes again, and else takes up to fifty. -/
  | interrupting
  /-- It takes everything and fails when it is flushed. -/
  | flushBroken (cause : String)
  /-- It answers by a script, and takes everything once that has come to its end. -/
  | scripted (answers : List SinkAnswer) (flushFailures : List (Option String))
  deriving DecidableEq, Repr

/-- A sink with the bytes that it took, the latest first, and the calls it had. -/
structure Sink where
  kind : SinkKind
  taken : List UInt8 := []
  writes : Nat := 0
  flushes : Nat := 0
  deriving DecidableEq, Repr

namespace Sink

/-- The bytes that a sink took, in order. -/
def text (sink : Sink) : List UInt8 :=
  sink.taken.reverse

/-- The answer of a sink to an offer of `length` bytes. -/
def answer
    (sink : Sink)
    (length : Nat) :
    SinkAnswer :=
  match sink.kind with
  | .endless | .flushBroken _ => .took length
  | .broken cause => .failed cause
  | .chunked limit => .took (min limit length)
  | .limited limit cause =>
    if limit ≤ sink.taken.length then
      .failed cause
    else
      .took (min (limit - sink.taken.length) length)
  | .filling limit => .took (min (limit - sink.taken.length) length)
  | .interrupting =>
    if sink.writes % 2 = 0 then .interrupted else .took (min 50 length)
  | .scripted answers _ =>
    match answers[sink.writes]?.getD (.took length) with
    | .took count => .took (min count length)
    | other => other

/-- How many more times in a row a sink may ask to be offered the same bytes again. -/
def patience (sink : Sink) : Nat :=
  match sink.kind with
  | .interrupting => (sink.writes + 1) % 2
  | .scripted answers _ => answers.length - sink.writes
  | _ => 0

/-- A sink after it was offered bytes and took the first `count` of them. -/
def take
    (sink : Sink)
    (bytes : List UInt8)
    (count : Nat) :
    Sink :=
  { sink with
    taken := (bytes.take count).reverse ++ sink.taken
    writes := sink.writes + 1 }

/-- The failure of a sink that takes nothing of what it is offered. -/
def refusal : String :=
  "failed to write whole buffer"

/-- An offer makes the patience that a sink asks for at most one longer. -/
theorem patience_take_le
    (sink : Sink)
    (bytes : List UInt8)
    (count : Nat) :
    (sink.take bytes count).patience ≤ sink.patience + 1 := by
  simp only [patience, take]
  split <;> omega

/-- A sink that was interrupted asks for less patience from then on. -/
theorem patience_take_lt_of_interrupted
    {sink : Sink}
    {length : Nat}
    (interrupted : sink.answer length = .interrupted)
    (bytes : List UInt8)
    (count : Nat) :
    (sink.take bytes count).patience < sink.patience := by
  rw [answer] at interrupted
  cases kind : sink.kind with
  | interrupting =>
      have even : sink.writes % 2 = 0 := by simpa [kind] using interrupted
      simp only [patience, take, kind]
      omega
  | scripted answers flushFailures =>
      -- Behind the end of its script a sink is never interrupted.
      have scripted : sink.writes < answers.length := by
        apply Nat.lt_of_not_le
        intro ended
        simp [kind, List.getElem?_eq_none ended] at interrupted
      simp only [patience, take, kind]
      omega
  | _ => grind

/-- Offers bytes until all are taken, and gives the failure if there was one. -/
def writeAll
    (sink : Sink)
    (bytes : List UInt8) :
    Sink × Option String :=
  if bytes = [] then
    (sink, none)
  else
    match answered : sink.answer bytes.length with
    | .failed cause => (sink.take bytes 0, some cause)
    | .interrupted => (sink.take bytes 0).writeAll bytes
    | .took 0 => (sink.take bytes 0, some refusal)
    | .took (count + 1) =>
      (sink.take bytes (count + 1)).writeAll (bytes.drop (count + 1))
  termination_by 2 * bytes.length + sink.patience
  decreasing_by
    · exact Nat.add_lt_add_left (patience_take_lt_of_interrupted answered bytes 0) _
    · have offered : bytes.length ≠ 0 := by simpa using ‹¬bytes = []›
      have longer := sink.patience_take_le bytes (count + 1)
      rw [List.length_drop]
      omega

/-- Flushes a sink, and gives the failure if there was one. -/
def flush (sink : Sink) : Sink × Option String :=
  ({ sink with flushes := sink.flushes + 1 },
    match sink.kind with
    | .flushBroken cause => some cause
    | .scripted _ flushFailures => flushFailures[sink.flushes]?.join
    | _ => none)

/-- Writes bytes and flushes the sink unless the writing failed. -/
def deliver
    (sink : Sink)
    (bytes : List UInt8) :
    Sink × Option String :=
  match sink.writeAll bytes with
  | (written, none) => written.flush
  | (written, some cause) => (written, some cause)

@[simp]
theorem text_take
    (sink : Sink)
    (bytes : List UInt8)
    (count : Nat) :
    (sink.take bytes count).text = sink.text ++ bytes.take count := by
  simp [text, take]

end Sink

end MixUnits
