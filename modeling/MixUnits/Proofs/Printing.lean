import MixUnits.Proofs.Delivery

/-!
# Printing on a sink that takes everything

A sink that takes everything has, after every delivery, the bytes it had before followed
by those delivered, and goes on taking everything.  So what a line printer has printed on
such a sink is its lines, one after the other.
-/

namespace MixUnits

namespace Sink

theorem deliver_of_endless
    {sink : Sink}
    (endless : sink.kind = .endless)
    (bytes : List UInt8) :
    (sink.deliver bytes).2 = none ∧
      (sink.deliver bytes).1.kind = .endless ∧
        (sink.deliver bytes).1.text = sink.text ++ bytes := by
  have willing : sink.kind.isWilling = true := by rw [endless]; rfl
  rcases text_deliver_of_isWilling willing bytes with ⟨kind, text⟩
  rcases sink.offers_writeAll bytes with ⟨answers, offers, failure⟩
  have sound : (sink.writeAll bytes).2 = none := by
    rw [← Option.isNone_iff_eq_none, ← Option.isSome_eq_false_iff, failure]
    exact offers.any_isRefusal_of_isWilling willing
  have still : (sink.writeAll bytes).1.kind = .endless := offers.kind_eq.trans endless
  refine ⟨?_, kind.trans endless, text⟩
  rw [deliver]
  rcases wrote : sink.writeAll bytes with ⟨written, failure?⟩
  rw [wrote] at sound still
  obtain rfl : failure? = none := sound
  have unbroken : written.kind = .endless := still
  simp only [flush, unbroken]

end Sink

namespace LinePrinter

/-- A printer whose sink takes everything has printed a text. -/
structure HasPrinted
    (printer : LinePrinter)
    (text : List UInt8) :
    Prop where
  endless : printer.sink.kind = .endless
  text_eq : printer.sink.text = text

/-- An output adds its line to what was printed, and there is nothing to report. -/
theorem hasPrinted_output
    {printer : LinePrinter}
    {text : List UInt8}
    (printed : printer.HasPrinted text)
    (now : UInt64)
    (buffer : Buffer) :
    (printer.output now buffer).accepted = true ∧
      (printer.output now buffer).notices = [] ∧
        (printer.output now buffer).unit.HasPrinted (text ++ line buffer) := by
  rcases Sink.deliver_of_endless printed.endless (line buffer) with ⟨sound, endless, longer⟩
  refine ⟨rfl, ?_, endless, ?_⟩
  · simp only [output, sound]
  · exact printed.text_eq ▸ longer

end LinePrinter

end MixUnits
