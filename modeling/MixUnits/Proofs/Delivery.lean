import Mathlib.Algebra.Ring.Nat
import Mathlib.Data.List.TakeDrop
import MixUnits.Device.LinePrinter
import MixUnits.Proofs.Characters

/-!
# Lines on sinks of every kind

A printer offers a line to its sink and goes on offering what the sink did not take, until
nothing is left or the sink refuses: it fails, or it takes nothing of what it was offered.  An
interruption is no refusal.  Whatever the sink does, it takes the beginning of the line, every
byte once and in order.  It takes the whole line exactly if it refuses nothing, and then, and
only then, it is flushed.

So a sink that never refuses holds line after line, and a sink for a limited number of bytes
holds so many of them.
-/

namespace MixUnits

namespace SinkAnswer

/-- The number of bytes that were taken. -/
def count : SinkAnswer → Nat
  | .took count => count
  | .interrupted | .failed _ => 0

/-- Whether nothing was taken for good: the sink failed, or took nothing of an offer. -/
def isRefusal : SinkAnswer → Bool
  | .took count => count = 0
  | .interrupted => false
  | .failed _ => true

theorem count_of_isRefusal
    {answer : SinkAnswer}
    (refusal : answer.isRefusal = true) :
    answer.count = 0 := by
  cases answer with
  | took count => exact of_decide_eq_true refusal
  | interrupted => rfl
  | failed cause => rfl

end SinkAnswer

namespace Sink

/--
Bytes are offered to a sink, and what it does not take is offered again, until nothing is left
or it refuses.  The answers of the sink are listed, and the last sink is what it is afterwards.
-/
inductive Offers : Sink → List UInt8 → List SinkAnswer → Sink → Prop
  | done (sink : Sink) :
      Offers sink [] [] sink
  | refused
      {sink : Sink}
      {bytes : List UInt8}
      (left : bytes ≠ [])
      (refusal : (sink.answer bytes.length).isRefusal = true) :
      Offers sink bytes [sink.answer bytes.length] (sink.take bytes 0)
  | onward
      {sink last : Sink}
      {bytes : List UInt8}
      {answers : List SinkAnswer}
      (left : bytes ≠ [])
      (ongoing : (sink.answer bytes.length).isRefusal = false)
      (later :
        Offers (sink.take bytes (sink.answer bytes.length).count)
          (bytes.drop (sink.answer bytes.length).count) answers last) :
      Offers sink bytes (sink.answer bytes.length :: answers) last

/-- A sink does not take more than it is offered. -/
theorem count_answer_le
    (sink : Sink)
    (length : Nat) :
    (sink.answer length).count ≤ length := by
  rw [answer]
  cases sink.kind with
  | endless => exact Nat.le_refl length
  | flushBroken cause => exact Nat.le_refl length
  | broken cause => exact Nat.zero_le length
  | chunked limit => exact Nat.min_le_right limit length
  | filling limit => exact Nat.min_le_right _ length
  | limited limit cause =>
      dsimp only
      split
      · exact Nat.zero_le length
      · exact Nat.min_le_right _ length
  | interrupting =>
      dsimp only
      split
      · exact Nat.zero_le length
      · exact Nat.min_le_right 50 length
  | scripted answers flushFailures =>
      dsimp only
      cases answers[sink.writes]?.getD (.took length) with
      | took count => exact Nat.min_le_right count length
      | interrupted => exact Nat.zero_le length
      | failed cause => exact Nat.zero_le length

/-- Writing bytes is offering them, and it fails exactly if the sink refuses. -/
theorem offers_writeAll
    (sink : Sink)
    (bytes : List UInt8) :
    ∃ answers,
      sink.Offers bytes answers (sink.writeAll bytes).1 ∧
        (sink.writeAll bytes).2.isSome = answers.any SinkAnswer.isRefusal := by
  fun_induction writeAll sink bytes with
  | case1 sink => exact ⟨[], .done sink, rfl⟩
  | case2 sink bytes left cause failed =>
      have refusal : (sink.answer bytes.length).isRefusal = true := by rw [failed]; rfl
      exact ⟨_, .refused left refusal, by rw [failed]; rfl⟩
  | case3 sink bytes left interrupted ih =>
      rcases ih with ⟨answers, later, failure⟩
      have ongoing : (sink.answer bytes.length).isRefusal = false := by rw [interrupted]; rfl
      have none : (sink.answer bytes.length).count = 0 := by rw [interrupted]; rfl
      refine ⟨_, .onward left ongoing (by rwa [none, List.drop_zero]), ?_⟩
      rw [failure, List.any_cons, ongoing, Bool.false_or]
  | case4 sink bytes left nothing =>
      have refusal : (sink.answer bytes.length).isRefusal = true := by rw [nothing]; rfl
      exact ⟨_, .refused left refusal, by rw [nothing]; rfl⟩
  | case5 sink bytes left count took ih =>
      rcases ih with ⟨answers, later, failure⟩
      have ongoing : (sink.answer bytes.length).isRefusal = false := by rw [took]; rfl
      have some : (sink.answer bytes.length).count = count + 1 := by rw [took]; rfl
      refine ⟨_, .onward left ongoing (by rwa [some]), ?_⟩
      rw [failure, List.any_cons, ongoing, Bool.false_or]

namespace Offers

variable
  {sink last : Sink}
  {bytes : List UInt8}
  {answers : List SinkAnswer}

theorem kind_eq (offers : sink.Offers bytes answers last) : last.kind = sink.kind := by
  induction offers with
  | done sink => rfl
  | refused left refusal => rfl
  | onward left ongoing later ih => exact ih

/-- Offering bytes is not flushing. -/
theorem flushes_eq (offers : sink.Offers bytes answers last) :
    last.flushes = sink.flushes := by
  induction offers with
  | done sink => rfl
  | refused left refusal => rfl
  | onward left ongoing later ih => exact ih

/-- What the sink took are the first of the bytes, every one of them once and in order. -/
theorem text_eq (offers : sink.Offers bytes answers last) :
    last.text = sink.text ++ bytes.take (answers.map SinkAnswer.count).sum := by
  induction offers with
  | done sink => rw [List.take_nil, List.append_nil]
  | refused left refusal =>
      rw [text_take, List.map_singleton, List.sum_singleton,
        SinkAnswer.count_of_isRefusal refusal]
  | onward left ongoing later ih =>
      rw [ih, text_take, List.map_cons, List.sum_cons, List.take_add, List.append_assoc]

/-- The answers of a sink do not add up to more than it was offered. -/
theorem sum_le_length (offers : sink.Offers bytes answers last) :
    (answers.map SinkAnswer.count).sum ≤ bytes.length := by
  induction offers with
  | done sink => exact Nat.le_refl 0
  | @refused sink bytes left refusal =>
      rw [List.map_singleton, List.sum_singleton]
      exact sink.count_answer_le bytes.length
  | @onward sink last bytes answers left ongoing later ih =>
      have taken := sink.count_answer_le bytes.length
      rw [List.length_drop] at ih
      rw [List.map_cons, List.sum_cons]
      omega

/-- As many bytes as there are were taken exactly if nothing was refused. -/
theorem length_le_sum_iff (offers : sink.Offers bytes answers last) :
    bytes.length ≤ (answers.map SinkAnswer.count).sum ↔
      answers.any SinkAnswer.isRefusal = false := by
  induction offers with
  | done sink => exact ⟨fun _ => rfl, fun _ => Nat.le_refl 0⟩
  | refused left refusal =>
      have some := List.length_pos_iff.2 left
      rw [List.map_singleton, List.sum_singleton, SinkAnswer.count_of_isRefusal refusal,
        List.any_cons, refusal]
      exact ⟨fun none => absurd some (Nat.not_lt_of_le none), nofun⟩
  | onward left ongoing later ih =>
      rw [List.map_cons, List.sum_cons, List.any_cons, ongoing, Bool.false_or, ← ih,
        List.length_drop, Nat.sub_le_iff_le_add']

/-- A sink holds the whole of what it was offered exactly if it refused nothing. -/
theorem take_eq_self_iff (offers : sink.Offers bytes answers last) :
    bytes.take (answers.map SinkAnswer.count).sum = bytes ↔
      answers.any SinkAnswer.isRefusal = false := by
  rw [List.take_eq_self_iff, offers.length_le_sum_iff]

end Offers

theorem length_taken (sink : Sink) : sink.taken.length = sink.text.length := by
  rw [text, List.length_reverse]

/-- Delivering bytes is offering them and, if none are refused, flushing the sink. -/
theorem offers_deliver
    (sink : Sink)
    (bytes : List UInt8) :
    ∃ answers written,
      sink.Offers bytes answers written ∧
        (sink.deliver bytes).1 =
          if answers.any SinkAnswer.isRefusal then written else written.flush.1 := by
  rcases sink.offers_writeAll bytes with ⟨answers, offers, failure⟩
  refine ⟨answers, _, offers, ?_⟩
  rw [← failure, deliver]
  rcases sink.writeAll bytes with ⟨written, _ | cause⟩
  · rfl
  · rfl

end Sink

namespace SinkKind

/-- Whether a sink takes sooner or later whatever it is offered. -/
def isWilling : SinkKind → Bool
  | .endless | .interrupting | .flushBroken _ => true
  | .chunked limit => 0 < limit
  | .scripted answers _ => answers.all fun answer => !answer.isRefusal
  | .broken _ | .limited _ _ | .filling _ => false

/-- The number of bytes that a sink takes in all, if it takes that many and no more. -/
def limit? : SinkKind → Option Nat
  | .limited limit _ | .filling limit => some limit
  | .endless | .broken _ | .chunked _ | .interrupting | .flushBroken _ | .scripted _ _ => none

end SinkKind

namespace Sink

section Kinds

variable
  {sink last : Sink}
  {limit length : Nat}
  {bytes : List UInt8}
  {answers : List SinkAnswer}

theorem isRefusal_answer_of_isWilling
    (willing : sink.kind.isWilling = true)
    (offered : 0 < length) :
    (sink.answer length).isRefusal = false := by
  have some {count : Nat} (positive : 0 < count) :
      (SinkAnswer.took (min count length)).isRefusal = false :=
    decide_eq_false (Nat.ne_of_gt (Nat.lt_min.2 ⟨positive, offered⟩))
  have all : (SinkAnswer.took length).isRefusal = false :=
    decide_eq_false (Nat.ne_of_gt offered)
  rw [answer]
  cases kind : sink.kind with
  | endless => exact all
  | flushBroken cause => exact all
  | chunked chunk =>
      rw [kind] at willing
      exact some (of_decide_eq_true willing)
  | interrupting =>
      dsimp only
      split
      · rfl
      · exact some (by decide)
  | scripted answers flushFailures =>
      rw [kind] at willing
      dsimp only
      cases found : answers[sink.writes]? with
      | none => exact some offered
      | some answer =>
          have taken := List.all_eq_true.1 willing answer (List.mem_of_getElem? found)
          rw [Bool.not_eq_true'] at taken
          cases answer with
          | took count => exact some (Nat.pos_of_ne_zero (of_decide_eq_false taken))
          | interrupted => rfl
          | failed cause => exact taken
  | broken cause => simp [kind, SinkKind.isWilling] at willing
  | limited limit cause => simp [kind, SinkKind.isWilling] at willing
  | filling limit => simp [kind, SinkKind.isWilling] at willing

theorem count_answer_of_limit?
    (limited : sink.kind.limit? = some limit)
    (length : Nat) :
    (sink.answer length).count = min (limit - sink.text.length) length := by
  rw [answer, ← length_taken]
  cases kind : sink.kind with
  | limited most cause =>
      obtain rfl : most = limit := by simpa [kind, SinkKind.limit?] using limited
      dsimp only
      split
      · next full => rw [Nat.sub_eq_zero_of_le full, Nat.zero_min]; rfl
      · rfl
  | filling most =>
      obtain rfl : most = limit := by simpa [kind, SinkKind.limit?] using limited
      rfl
  | _ => simp [kind, SinkKind.limit?] at limited

/-- A willing sink refuses nothing. -/
theorem Offers.any_isRefusal_of_isWilling
    (offers : sink.Offers bytes answers last)
    (willing : sink.kind.isWilling = true) :
    answers.any SinkAnswer.isRefusal = false := by
  induction offers with
  | done sink => rfl
  | refused left refusal =>
      have taken := isRefusal_answer_of_isWilling willing (List.length_pos_iff.2 left)
      exact absurd (taken.symm.trans refusal) Bool.false_ne_true
  | onward left ongoing later ih =>
      rw [List.any_cons, ongoing, Bool.false_or]
      exact ih willing

/-- A sink with a limit takes what it is offered until it is full. -/
theorem Offers.text_of_limit?
    (offers : sink.Offers bytes answers last)
    (limited : sink.kind.limit? = some limit)
    (held : sink.text.length ≤ limit) :
    last.text = (sink.text ++ bytes).take limit := by
  induction offers with
  | done sink => rw [List.append_nil, List.take_of_length_le held]
  | @refused sink bytes left refusal =>
      have some := List.length_pos_iff.2 left
      have taken := count_answer_of_limit? limited bytes.length
      rw [SinkAnswer.count_of_isRefusal refusal] at taken
      have full : sink.text.length = limit := by omega
      rw [text_take, List.take_zero, List.append_nil, ← full, List.take_left]
  | @onward sink last bytes answers left ongoing later ih =>
      have taken := count_answer_of_limit? limited bytes.length
      have fits : (sink.take bytes (sink.answer bytes.length).count).text.length ≤ limit := by
        rw [text_take, List.length_append, List.length_take]
        omega
      rw [ih limited fits, text_take, List.append_assoc, List.take_append_drop]

/-- A willing sink takes every delivery whole. -/
theorem text_deliver_of_isWilling
    (willing : sink.kind.isWilling = true)
    (bytes : List UInt8) :
    (sink.deliver bytes).1.kind = sink.kind ∧
      (sink.deliver bytes).1.text = sink.text ++ bytes := by
  rcases sink.offers_deliver bytes with ⟨answers, written, offers, delivered⟩
  have none := offers.any_isRefusal_of_isWilling willing
  have text := offers.text_eq
  rw [offers.take_eq_self_iff.2 none] at text
  rw [delivered, none]
  exact ⟨offers.kind_eq, text⟩

/-- A sink with a limit takes a delivery until it is full. -/
theorem text_deliver_of_limit?
    (limited : sink.kind.limit? = some limit)
    (held : sink.text.length ≤ limit)
    (bytes : List UInt8) :
    (sink.deliver bytes).1.kind = sink.kind ∧
      (sink.deliver bytes).1.text = (sink.text ++ bytes).take limit := by
  rcases sink.offers_deliver bytes with ⟨answers, written, offers, delivered⟩
  have text := offers.text_of_limit? limited held
  rw [delivered]
  split
  · exact ⟨offers.kind_eq, text⟩
  · exact ⟨offers.kind_eq, text⟩

end Kinds

end Sink

namespace LinePrinter

/-- A printer after it printed some buffers, each of them at its moment. -/
def outputs
    (printer : LinePrinter)
    (calls : List (UInt64 × Buffer)) :
    LinePrinter :=
  calls.foldl (fun printer call => (printer.output call.1 call.2).unit) printer

/-- The lines of some buffers, one after the other. -/
def lines (calls : List (UInt64 × Buffer)) : List UInt8 :=
  calls.flatMap fun call => line call.2

variable {printer : LinePrinter}

theorem text_outputs_of_isWilling
    (willing : printer.sink.kind.isWilling = true)
    (calls : List (UInt64 × Buffer)) :
    (printer.outputs calls).sink.text = printer.sink.text ++ lines calls := by
  induction calls generalizing printer with
  | nil => exact (List.append_nil _).symm
  | cons call rest ih =>
      rcases Sink.text_deliver_of_isWilling willing (line call.2) with ⟨kind, text⟩
      have next := @ih (printer.output call.1 call.2).unit (kind ▸ willing)
      rw [lines, List.flatMap_cons, ← List.append_assoc]
      exact next.trans (congrArg (· ++ lines rest) text)

/-- What does not fit at first does not fit later. -/
theorem take_append_of_take
    (limit : Nat)
    (early late : List UInt8) :
    (early.take limit ++ late).take limit = (early ++ late).take limit := by
  rw [List.take_append, List.take_append, List.take_take, Nat.min_self, List.length_take]
  congr 2
  omega

theorem text_outputs_of_limit?
    {limit : Nat}
    (limited : printer.sink.kind.limit? = some limit)
    (held : printer.sink.text.length ≤ limit)
    (calls : List (UInt64 × Buffer)) :
    (printer.outputs calls).sink.text = (printer.sink.text ++ lines calls).take limit := by
  induction calls generalizing printer with
  | nil =>
      rw [lines, List.flatMap_nil, List.append_nil, List.take_of_length_le held]
      rfl
  | cons call rest ih =>
      rcases Sink.text_deliver_of_limit? limited held (line call.2) with ⟨kind, text⟩
      have stored :
          (printer.output call.1 call.2).unit.sink.text =
            (printer.sink.text ++ line call.2).take limit :=
        text
      have fits : (printer.output call.1 call.2).unit.sink.text.length ≤ limit :=
        stored ▸ List.length_take_le limit _
      have next := @ih (printer.output call.1 call.2).unit (kind ▸ limited) fits
      rw [stored, take_append_of_take, List.append_assoc] at next
      exact next

/--
A line has the five characters of each of the first 24 words of a buffer, the most significant
field first, and a line feed behind them and nowhere else.
-/
structure IsLineOf
    (buffer : Buffer)
    (text : List UInt8) :
    Prop where
  length : text.length = 5 * min buffer.size 24 + 1
  characters :
    ∀ index column,
      index < min buffer.size 24 →
        column < 5 →
          text[5 * index + column]? =
            buffer[index]?.map fun word => Code.toByte (word.field column)
  lineFeed : ∀ place, text[place]? = some 10 ↔ place = 5 * min buffer.size 24

theorem isLineOf_line (buffer : Buffer) : IsLineOf buffer (line buffer) := by
  have length : ((buffer.toList.take 24).flatMap Word.text).length = 5 * min buffer.size 24 := by
    rw [Word.length_flatMap_text, List.length_take, Array.length_toList, Nat.min_comm]
  have line_eq : line buffer = (buffer.toList.take 24).flatMap Word.text ++ [10] := rfl
  refine ⟨?_, ?_, ?_⟩
  · rw [line_eq, List.length_append, length, List.length_singleton]
  · intro index column within few
    have early : 5 * index + column < ((buffer.toList.take 24).flatMap Word.text).length := by
      omega
    rw [line_eq, List.getElem?_append_left early, Word.getElem?_flatMap_text _ _ few,
      List.getElem?_take_of_lt (Nat.lt_of_lt_of_le within (Nat.min_le_right _ _)),
      Array.getElem?_toList]
  · intro place
    rw [line_eq, ← length]
    constructor
    · intro found
      rcases Nat.lt_trichotomy place ((buffer.toList.take 24).flatMap Word.text).length with
        early | same | late
      · rw [List.getElem?_append_left early] at found
        exact absurd (List.mem_of_getElem? found) (Word.lineFeed_not_mem_flatMap_text _)
      · exact same
      · rw [List.getElem?_eq_none] at found
        · contradiction
        · rw [List.length_append, List.length_singleton]
          exact late
    · rintro rfl
      exact List.getElem?_concat_length

/--
A printer hands over each line once, whole or as a prefix.  Whatever the sink does and whatever
was printed before, the sink takes the first bytes of the line, as many as its answers say, and
it holds the whole line exactly if it refuses nothing.  Then it is flushed once, behind the line,
and otherwise not at all.  So a willing sink holds all lines, one after the other, and a new sink
with a limit holds as many of their bytes as it has room for.
-/
theorem outputs_hand_over_lines_once
    (printer : LinePrinter)
    (calls : List (UInt64 × Buffer))
    (now : UInt64)
    (buffer : Buffer) :
    let before := printer.outputs calls
    let sent := before.output now buffer
    sent.unit = printer.outputs (calls ++ [(now, buffer)]) ∧
    sent.accepted = true ∧
    IsLineOf buffer (line buffer) ∧
    (∃ answers written,
      before.sink.Offers (line buffer) answers written ∧
      let taken := (line buffer).take (answers.map SinkAnswer.count).sum
      let refused := answers.any SinkAnswer.isRefusal
      sent.unit.sink.text = before.sink.text ++ taken ∧
      taken.length = (answers.map SinkAnswer.count).sum ∧
      written.flushes = before.sink.flushes ∧
      (taken = line buffer ↔ refused = false) ∧
      sent.unit.sink =
        if refused then written else { written with flushes := written.flushes + 1 }) ∧
    (printer.sink.kind.isWilling = true →
      before.sink.text = printer.sink.text ++ lines calls) ∧
    ∀ limit,
      printer.sink.kind.limit? = some limit →
        printer.sink.text = [] →
          before.sink.text = (lines calls).take limit := by
  intro before sent
  rcases before.sink.offers_deliver (line buffer) with ⟨answers, written, offers, delivered⟩
  refine ⟨?_, rfl, isLineOf_line buffer, ?_, ?_, ?_⟩
  · rw [outputs, List.foldl_append]
    rfl
  · have stored : sent.unit.sink = if answers.any _ then written else written.flush.1 := delivered
    refine
      ⟨answers, written, offers, ?_, List.length_take_of_le offers.sum_le_length,
        offers.flushes_eq, offers.take_eq_self_iff, delivered⟩
    rw [stored, ← offers.text_eq]
    split
    · rfl
    · rfl
  · intro willing
    exact text_outputs_of_isWilling willing calls
  · intro limit limited blank
    have held : printer.sink.text.length ≤ limit := by
      rw [blank]
      exact Nat.zero_le limit
    have text := text_outputs_of_limit? limited held calls
    rwa [blank, List.nil_append] at text

end LinePrinter

end MixUnits
