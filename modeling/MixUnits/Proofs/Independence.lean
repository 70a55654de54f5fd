import MixUnits.Proofs.Alike

/-!
# Independent requests

A request spares another one if it asks another unit, replaces no file that the other one
reads or replaces, and delivers no words to the window that the other one names.  Then the
other one does the same before and after it.  Requests that spare each other are
independent: it does not matter which of them comes first, neither to what becomes of the
units, the memory and the files, nor to which requests are accepted, now or later.
-/

namespace MixUnits

namespace Buffer

theorem slice_overlay_of_apart
    {buffer source : Buffer}
    {start stop first : Nat}
    (apart : first + source.size ≤ start ∨ stop ≤ first) :
    (buffer.overlay first source).slice start stop = buffer.slice start stop := by
  apply Array.ext_getElem?
  intro index
  rw [getElem?_slice, getElem?_slice, getElem?_overlay]
  split
  · rename_i within
    by_cases covered : first ≤ start + index
    · have behind : source.size ≤ start + index - first := by omega
      simp only [if_pos covered, Array.getElem?_eq_none behind, Option.getD_none,
        Option.map_id']
    · simp only [if_neg covered, Option.map_id']
  · rfl

/-- Words that are laid over different parts of a run are laid in any order. -/
theorem overlay_comm_of_apart
    {buffer source other : Buffer}
    {start next : Nat}
    (apart : start + source.size ≤ next ∨ next + other.size ≤ start) :
    (buffer.overlay start source).overlay next other =
      (buffer.overlay next other).overlay start source := by
  apply Array.ext_getElem?
  intro index
  simp only [getElem?_overlay, Option.map_map]
  refine congrArg (fun change => buffer[index]?.map change) (funext fun word => ?_)
  simp only [Function.comp_apply]
  by_cases first : start ≤ index
  · by_cases second : next ≤ index
    · rw [if_pos first, if_pos second, if_pos first, if_pos second]
      rcases apart with before | after
      · have behind : source.size ≤ index - start := by omega
        rw [Array.getElem?_eq_none behind, Option.getD_none, Option.getD_none]
      · have behind : other.size ≤ index - next := by omega
        rw [Array.getElem?_eq_none behind, Option.getD_none, Option.getD_none]
    · rw [if_pos first, if_neg second, if_neg second, if_pos first]
  · rw [if_neg first, if_neg first]

end Buffer

namespace Machine

/-- The window of memory that a request names: its beginning and its end. -/
def window?
    (machine : Machine)
    (request : Request) :
    Option (Nat × Nat) :=
  match request.operation with
  | .control _ => none
  | .input | .output =>
    (machine.device? request.unit).bind fun device =>
      (machine.windowEnd? device request.address).map fun stop => (request.address, stop)

/-- The place of the file that a request replaces. -/
def fileWritten?
    (machine : Machine)
    (request : Request) :
    Option Location :=
  match request.operation with
  | .input | .control _ => none
  | .output =>
    (machine.view? request).bind fun view =>
      (view.1.document? view.2).bind fun document => machine.files.target? document.1

/-- The place of the file that a request reads, whether or not there is one. -/
def fileRead?
    (machine : Machine)
    (request : Request) :
    Option Location :=
  match request.operation with
  | .output | .control _ => none
  | .input =>
    (machine.view? request).bind fun view =>
      view.1.card?.bind fun path => (machine.files.walk path).toOption

/-- What it means that a request leaves alone what another one uses. -/
structure Spares
    (machine : Machine)
    (one other : Request) :
    Prop where
  unit : one.unit ≠ other.unit
  written :
    ∀ place,
      machine.fileWritten? one = some place →
        machine.fileWritten? other ≠ some place ∧ machine.fileRead? other ≠ some place
  window :
    one.operation = .input →
      ∀ start stop first last,
        machine.window? one = some (start, stop) →
          machine.window? other = some (first, last) → stop ≤ first ∨ last ≤ start

/-- Requests for different units that spare each other. -/
def Independent
    (machine : Machine)
    (one other : Request) :
    Prop :=
  machine.Spares one other ∧ machine.Spares other one

theorem le_of_windowEnd?
    {machine : Machine}
    {device : Device}
    {address stop : Nat}
    (fits : machine.windowEnd? device address = some stop) :
    address ≤ stop := by
  rw [windowEnd?] at fits
  split at fits
  · cases fits
    omega
  · contradiction

section Deeds

variable
  (machine : Machine)
  (now : UInt64)
  (request : Request)

/-- A request that delivers words is an input, and they fit into its window. -/
theorem delivered_deed :
    (machine.deed now request).delivered = #[] ∨
      request.operation = .input ∧
        ∃ stop,
          machine.window? request = some (request.address, stop) ∧
            request.address + (machine.deed now request).delivered.size ≤ stop := by
  rw [deed, view?, window?]
  cases machine.device? request.unit with
  | none => exact Or.inl rfl
  | some device =>
      simp only [Option.bind_some]
      cases request.operation with
      | control mode => exact Or.inl rfl
      | output =>
          cases machine.windowEnd? device request.address with
          | none => exact Or.inl rfl
          | some stop => exact Or.inl rfl
      | input =>
          cases fits : machine.windowEnd? device request.address with
          | none => exact Or.inl rfl
          | some stop =>
              have size :=
                device.size_buffer_input now machine.files
                  (machine.memory.slice request.address stop)
              have forward := le_of_windowEnd? fits
              rw [Buffer.size_slice] at size
              refine Or.inr ⟨rfl, stop, rfl, ?_⟩
              simp only [Option.map_some, Device.deed, size]
              omega

/-- What a request saves is the file that it replaces, and no folder stands at its place. -/
theorem saved?_deed :
    ((machine.deed now request).saved? = none ∧ machine.fileWritten? request = none) ∨
      ∃ place contents,
        (machine.deed now request).saved? = some (place, contents) ∧
          machine.fileWritten? request = some place ∧
            machine.files.isFolder place = false := by
  rw [deed, fileWritten?]
  cases machine.view? request with
  | none =>
      refine Or.inl ⟨rfl, ?_⟩
      cases request.operation with
      | control mode => rfl
      | input => rfl
      | output => rfl
  | some view =>
      rcases view with ⟨device, window⟩
      cases request.operation with
      | control mode => exact Or.inl ⟨rfl, rfl⟩
      | input => exact Or.inl ⟨rfl, rfl⟩
      | output =>
          simp only [Device.deed, Option.bind_some]
          cases device.document? window with
          | none => exact Or.inl ⟨rfl, rfl⟩
          | some document =>
              simp only [Option.bind_some, FileSystem.saving?]
              cases found : machine.files.target? document.1 with
              | none => exact Or.inl ⟨rfl, rfl⟩
              | some place =>
                  refine Or.inr ⟨place, document.2, rfl, rfl, ?_⟩
                  exact ((FileSystem.target?_eq_some_iff _ _).1 found).2.2

end Deeds

theorem device?_applyTo_of_ne
    (deed : Deed)
    (machine : Machine)
    {request : Request}
    {other : Nat}
    (apart : other ≠ request.unit) :
    (deed.applyTo machine request).device? other = machine.device? other := by
  rcases deed with ⟨accepted, device?, delivered, saved?⟩
  cases device? with
  | none => rfl
  | some device => exact machine.device?_place_of_ne apart (some device)

namespace Spares

variable
  {machine : Machine}
  {one other : Request}
  (spares : machine.Spares one other)
  (now : UInt64)

include spares

/-- The words in the window of a request stay as they were. -/
theorem slice_eq
    {stop : Nat}
    (named : machine.window? other = some (other.address, stop)) :
    ((machine.deed now one).applyTo machine one).memory.slice other.address stop =
      machine.memory.slice other.address stop := by
  rw [Deed.applyTo]
  rcases machine.delivered_deed now one with nothing | ⟨reads, last, window, fits⟩
  · rw [nothing, Buffer.overlay_empty]
  · apply Buffer.slice_overlay_of_apart
    rcases spares.window reads one.address last other.address stop window named with
      before | after
    · exact Or.inl (Nat.le_trans fits before)
    · exact Or.inr after

/-- A request sees what it saw before another one that spares it. -/
theorem view?_eq :
    ((machine.deed now one).applyTo machine one).view? other = machine.view? other := by
  have sameEnd
      (device : Device) :
      ((machine.deed now one).applyTo machine one).windowEnd? device other.address =
        machine.windowEnd? device other.address := by
    rw [windowEnd?, windowEnd?, Deed.applyTo, Buffer.size_overlay]
  rw [view?, view?, device?_applyTo_of_ne _ machine spares.unit.symm]
  cases found : machine.device? other.unit with
  | none => rfl
  | some device =>
      -- Both kinds of transfers see the words in their window, which are spared.
      have sameWords
          (transfer :
            ∀ stop,
              machine.windowEnd? device other.address = some stop →
                machine.window? other = some (other.address, stop)) :
          ((machine.windowEnd? device other.address).map fun stop =>
              (device,
                ((machine.deed now one).applyTo machine one).memory.slice other.address
                  stop)) =
            (machine.windowEnd? device other.address).map fun stop =>
              (device, machine.memory.slice other.address stop) := by
        apply Option.map_congr
        intro stop fits
        rw [spares.slice_eq now (transfer stop fits)]
      simp only [Option.bind_some, sameEnd]
      cases asked : other.operation with
      | control mode => rfl
      | input =>
          apply sameWords
          intro stop fits
          simp only [window?, asked, found, fits, Option.bind_some, Option.map_some]
      | output =>
          apply sameWords
          intro stop fits
          simp only [window?, asked, found, fits, Option.bind_some, Option.map_some]

/-- A card is read as before unless it is the file that is replaced. -/
theorem read_iff
    {path : String}
    (read :
      ∀ place, machine.files.walk path = .ok place → machine.fileRead? other = some place)
    (contents : Array UInt8) :
    ((machine.deed now one).applyTo machine one).files.read path = .ok contents ↔
      machine.files.read path = .ok contents := by
  rw [Deed.applyTo]
  rcases machine.saved?_deed now one with ⟨nothing, -⟩ | ⟨place, text, saved, written, free⟩
  · rw [nothing]
    exact Iff.rfl
  · rw [saved]
    apply FileSystem.read_put_file_iff_of_apart free
    intro walked
    exact (spares.written place written).2 (read place walked)

omit spares in
/-- A request does not change to which places files can be saved. -/
theorem saving?_eq :
    ((machine.deed now one).applyTo machine one).files.saving? = machine.files.saving? := by
  funext document
  rw [Deed.applyTo]
  rcases machine.saved?_deed now one with ⟨nothing, -⟩ | ⟨place, text, saved, -, free⟩
  · rw [nothing]
    rfl
  · rw [saved, FileSystem.saving?, FileSystem.saving?]
    congr 1
    apply Option.ext
    intro goal
    rw [FileSystem.keep]
    simp only [FileSystem.target?_eq_some_iff, FileSystem.walk_put_file_iff free,
      FileSystem.isFolder_put_file_eq free]

/-- A request does what it did before another one that spares it. -/
theorem deed_eq :
    ((machine.deed now one).applyTo machine one).deed now other =
      machine.deed now other := by
  have same := spares.view?_eq now
  cases seen : machine.view? other with
  | none => rw [deed_of_no_view? (same.trans seen), deed_of_no_view? seen]
  | some view =>
      rw [deed_of_view? (same.trans seen), deed_of_view? seen]
      apply Device.deed_of_other_files
      · intro asked path card
        apply spares.read_iff
        intro place walked
        simp only [fileRead?, asked, seen, Option.bind_some, card, walked]
        rfl
      · exact saving?_eq now

end Spares

section Pairs

variable
  {machine : Machine}
  {one other : Request}
  (independent : machine.Independent one other)
  (now : UInt64)

include independent

theorem overlay_comm_of_independent :
    (machine.memory.overlay one.address (machine.deed now one).delivered).overlay
        other.address (machine.deed now other).delivered =
      (machine.memory.overlay other.address (machine.deed now other).delivered).overlay
        one.address (machine.deed now one).delivered := by
  rcases machine.delivered_deed now one with nothing | ⟨reads, stop, window, fits⟩
  · rw [nothing, Buffer.overlay_empty, Buffer.overlay_empty]
  · rcases machine.delivered_deed now other with nothing | ⟨-, last, named, within⟩
    · rw [nothing, Buffer.overlay_empty, Buffer.overlay_empty]
    · apply Buffer.overlay_comm_of_apart
      rcases independent.1.window reads _ _ _ _ window named with before | after
      · exact Or.inl (Nat.le_trans fits before)
      · exact Or.inr (Nat.le_trans within after)

theorem alike_keep_of_independent :
    ((machine.files.keep (machine.deed now one).saved?).keep
        (machine.deed now other).saved?).Alike
      ((machine.files.keep (machine.deed now other).saved?).keep
        (machine.deed now one).saved?) := by
  rcases machine.saved?_deed now one with ⟨nothing, -⟩ | ⟨place, text, saved, written, -⟩
  · rw [nothing]
    exact fun _ => rfl
  · rcases machine.saved?_deed now other with ⟨nothing, -⟩ | ⟨goal, next, kept, replaced, -⟩
    · rw [nothing]
      exact fun _ => rfl
    · rw [saved, kept]
      apply FileSystem.alike_put_put
      rintro rfl
      exact (independent.1.written place written).1 replaced

/-- What two independent requests do can be done in any order. -/
theorem alike_applyTo_of_independent :
    ((machine.deed now other).applyTo ((machine.deed now one).applyTo machine one)
        other).Alike
      ((machine.deed now one).applyTo ((machine.deed now other).applyTo machine other)
        one) where
  units := by
    have apart := independent.1.unit
    simp only [Deed.applyTo]
    cases (machine.deed now one).device? with
    | none => rfl
    | some device =>
        cases (machine.deed now other).device? with
        | none => rfl
        | some next =>
            apply Vector.ext
            intro index inside
            simp only [Vector.getElem_setIfInBounds]
            by_cases own : one.unit = index
            · have foreign : other.unit ≠ index := fun same => apart (own.trans same.symm)
              simp only [own, foreign, if_true, if_false]
            · simp only [own, if_false]
  memory := overlay_comm_of_independent independent now
  files := alike_keep_of_independent independent now

/-- Two independent requests can be performed in any order. -/
theorem perform_comm_of_independent :
    let first := machine.perform now one
    let second := machine.perform now other
    (first.unit.perform now other).accepted = second.accepted ∧
      (second.unit.perform now one).accepted = first.accepted ∧
        (first.unit.perform now other).unit.Alike (second.unit.perform now one).unit := by
  intro first second
  rcases machine.perform_eq_deed now one with ⟨acceptedOne, unitOne⟩
  rcases machine.perform_eq_deed now other with ⟨acceptedOther, unitOther⟩
  rcases first.unit.perform_eq_deed now other with ⟨acceptedNext, unitNext⟩
  rcases second.unit.perform_eq_deed now one with ⟨acceptedLast, unitLast⟩
  have sameNext : first.unit.deed now other = machine.deed now other := by
    rw [unitOne]
    exact independent.1.deed_eq now
  have sameLast : second.unit.deed now one = machine.deed now one := by
    rw [unitOther]
    exact independent.2.deed_eq now
  refine ⟨?_, ?_, ?_⟩
  · rw [acceptedNext, sameNext, acceptedOther]
  · rw [acceptedLast, sameLast, acceptedOne]
  · rw [unitNext, unitLast, sameNext, sameLast, unitOne, unitOther]
    exact alike_applyTo_of_independent independent now

/-- Requests that are performed later do not tell in which order two independent ones were. -/
theorem performAll_comm_of_independent (late : List Request) :
    ∃ first second rest,
      (machine.performAll now (one :: other :: late)).accepted = first :: second :: rest ∧
        (machine.performAll now (other :: one :: late)).accepted =
            second :: first :: rest ∧
          (machine.performAll now (one :: other :: late)).machine.Alike
            (machine.performAll now (other :: one :: late)).machine := by
  rcases perform_comm_of_independent independent now with ⟨second, first, alike⟩
  rcases alike_performAll alike now late with ⟨rest, last⟩
  refine ⟨_, _, _, rfl, ?_, last⟩
  simp only [performAll, second, first, rest]

end Pairs

section AtRest

variable
  (machine : Machine)
  (request : Request)

theorem view?_atRest :
    machine.atRest.view? request =
      (machine.view? request).map fun view => (view.1.atRest, view.2) := by
  rw [view?, view?, device?_atRest]
  cases machine.device? request.unit with
  | none => rfl
  | some device =>
      simp only [Option.map_some, Option.bind_some, windowEnd?_atRest, memory_atRest]
      cases request.operation with
      | control mode => rfl
      | input =>
          rw [Option.map_map]
          rfl
      | output =>
          rw [Option.map_map]
          rfl

theorem window?_atRest : machine.atRest.window? request = machine.window? request := by
  rw [window?, window?, device?_atRest]
  cases machine.device? request.unit with
  | none => rfl
  | some device =>
      simp only [Option.map_some, Option.bind_some, windowEnd?_atRest]

theorem fileWritten?_atRest :
    machine.atRest.fileWritten? request = machine.fileWritten? request := by
  rw [fileWritten?, fileWritten?, view?_atRest]
  cases machine.view? request with
  | none => rfl
  | some view =>
      simp only [Option.map_some, Option.bind_some, Device.document?_atRest, files_atRest]

theorem fileRead?_atRest :
    machine.atRest.fileRead? request = machine.fileRead? request := by
  rw [fileRead?, fileRead?, view?_atRest]
  cases machine.view? request with
  | none => rfl
  | some view =>
      simp only [Option.map_some, Option.bind_some, Device.card?_atRest, files_atRest]

theorem spares_atRest
    (one other : Request) :
    machine.atRest.Spares one other ↔ machine.Spares one other := by
  constructor
  · intro spares
    constructor
    · exact spares.unit
    · simpa only [fileWritten?_atRest, fileRead?_atRest] using spares.written
    · simpa only [window?_atRest] using spares.window
  · intro spares
    constructor
    · exact spares.unit
    · simpa only [fileWritten?_atRest, fileRead?_atRest] using spares.written
    · simpa only [window?_atRest] using spares.window

end AtRest

/-- It does not matter to independence how long units are busy. -/
theorem Independent.of_atRest_eq
    {machine next : Machine}
    (same : machine.atRest = next.atRest)
    {one other : Request}
    (independent : machine.Independent one other) :
    next.Independent one other := by
  have transport
      {first second : Request}
      (spares : machine.Spares first second) :
      next.Spares first second := by
    rw [← spares_atRest, ← same, spares_atRest]
    exact spares
  exact ⟨transport independent.1, transport independent.2⟩

theorem length_accepted_performAll
    (machine : Machine)
    (moment : UInt64)
    (requests : List Request) :
    (machine.performAll moment requests).accepted.length = requests.length := by
  induction requests generalizing machine with
  | nil => rfl
  | cons request rest ih => exact congrArg (· + 1) (ih _)

end Machine

/-- A request that was completed, and whether it was accepted. -/
def Completion.verdict (completion : Completion) : Request × Bool :=
  (completion.request, completion.accepted)

namespace Channel

/-- The verdicts of a run are those of performing its requests outright. -/
theorem verdicts_run
    (channel : Channel)
    (requests : List Request)
    (moment : UInt64) :
    (completions (channel.run requests).steps.toList).map Completion.verdict =
      (channel.pending ++ requests).zip
        (channel.machine.performAll moment (channel.pending ++ requests)).accepted := by
  rcases channel.run_eq_performAll requests moment with ⟨-, completed, accepted, -⟩
  rw [← accepted, ← completed, List.zip_map']
  rfl

/--
Requests that are independent when a run comes to them can be swapped.  The run comes to its
end as before, every request is accepted or refused as before, and in the end the memory,
the units with their sinks and sources, and what stands at every location of the files are
the same, but for the ends of the transfers.
-/
theorem run_swap_of_independent
    (channel : Channel)
    (early late : List Request)
    (one other : Request)
    (independent : (channel.run early).channel.machine.Independent one other) :
    let run := channel.run (early ++ one :: other :: late)
    let swapped := channel.run (early ++ other :: one :: late)
    run.finished = true ∧ swapped.finished = true ∧
      (∃ before after oneAccepted otherAccepted,
        (completions run.steps.toList).map Completion.verdict =
            before ++ (one, oneAccepted) :: (other, otherAccepted) :: after ∧
          (completions swapped.steps.toList).map Completion.verdict =
              before ++ (other, otherAccepted) :: (one, oneAccepted) :: after ∧
            before.map Prod.fst = channel.pending ++ early ∧
              after.map Prod.fst = late) ∧
      run.channel.machine.memory = swapped.channel.machine.memory ∧
      (∀ unit,
        (run.channel.machine.device? unit).map Device.atRest =
          (swapped.channel.machine.device? unit).map Device.atRest) ∧
      (∀ location,
        run.channel.machine.files.node? location =
          swapped.channel.machine.files.node? location) ∧
      ∀ path,
        run.channel.machine.files.read path = swapped.channel.machine.files.read path := by
  intro run swapped
  -- Everything happens to the machine as it would be if it were performed outright.
  let before := channel.machine.performAll 0 (channel.pending ++ early)
  have apart : before.machine.Independent one other :=
    independent.of_atRest_eq (channel.run_eq_performAll early 0).2.2.2
  obtain ⟨first, second, rest, accepted, exchanged, alike⟩ :=
    Machine.performAll_comm_of_independent apart 0 late
  have split
      (next : List Request) :
      channel.machine.performAll 0 (channel.pending ++ (early ++ next)) =
        ⟨(before.machine.performAll 0 next).machine,
          before.accepted ++ (before.machine.performAll 0 next).accepted⟩ := by
    rw [← List.append_assoc, Machine.performAll_append]
  rcases channel.run_eq_performAll (early ++ one :: other :: late) 0 with
    ⟨finished, -, -, ended⟩
  rcases channel.run_eq_performAll (early ++ other :: one :: late) 0 with
    ⟨finishedToo, -, -, endedToo⟩
  rw [split] at ended endedToo
  have counted : (channel.pending ++ early).length = before.accepted.length :=
    (Machine.length_accepted_performAll _ _ _).symm
  have countedToo : late.length = rest.length := by
    have length := before.machine.length_accepted_performAll 0 (one :: other :: late)
    rw [accepted] at length
    simpa using length.symm
  have memory : run.channel.machine.memory = swapped.channel.machine.memory := by
    rw [← Machine.memory_atRest, ended, Machine.memory_atRest, alike.memory,
      ← Machine.memory_atRest, ← endedToo, Machine.memory_atRest]
  have files : run.channel.machine.files.Alike swapped.channel.machine.files := by
    rw [← Machine.files_atRest, ended, ← Machine.files_atRest swapped.channel.machine,
      endedToo]
    exact alike.files
  refine
    ⟨finished, finishedToo,
      ⟨(channel.pending ++ early).zip before.accepted, late.zip rest, first, second,
        ?_, ?_, ?_, ?_⟩,
      memory, ?_, files, files.read_eq⟩
  · rw [verdicts_run channel _ 0, split, accepted, ← List.append_assoc,
      List.zip_append counted]
    rfl
  · rw [verdicts_run channel _ 0, split, exchanged, ← List.append_assoc,
      List.zip_append counted]
    rfl
  · exact List.map_fst_zip (Nat.le_of_eq counted)
  · exact List.map_fst_zip (Nat.le_of_eq countedToo)
  · intro unit
    rw [← Machine.device?_atRest, ← Machine.device?_atRest, ended, endedToo,
      Machine.device?_atRest, Machine.device?_atRest, Machine.device?, Machine.device?,
      alike.units]

/--
A card reader with a card that begins with an A, a card punch with a deck of its own, and a
memory of two cards.
-/
def readerAndPunch : Machine :=
  let files := FileSystem.empty.put ["r0.card"] (.file (Thunk.mk fun _ => #[65]))
  let reader := Device.cardReader (.mount "r")
  let punch := Device.cardPunch (.mount "p")
  { ((Machine.blank files).place 16 (some reader)).place 17 (some punch) with
    memory := .blank 32 }

/-- Punching the first half of memory and reading into the second half are independent. -/
theorem independent_readerAndPunch :
    readerAndPunch.Independent ⟨17, .output, 0⟩ ⟨16, .input, 16⟩ := by
  have written : readerAndPunch.fileWritten? ⟨17, .output, 0⟩ = some ["p0.card"] := rfl
  have read : readerAndPunch.fileRead? ⟨16, .input, 16⟩ = some ["r0.card"] := rfl
  have window : readerAndPunch.window? ⟨17, .output, 0⟩ = some (0, 16) := rfl
  have named : readerAndPunch.window? ⟨16, .input, 16⟩ = some (16, 32) := rfl
  constructor
  · constructor
    · decide
    · intro place found
      cases written.symm.trans found
      refine ⟨nofun, ?_⟩
      rw [read]
      decide
    · nofun
  · constructor
    · decide
    · nofun
    · intro _ start stop first last fits within
      cases named.symm.trans fits
      cases window.symm.trans within
      exact Or.inr (Nat.le_refl 16)

/-- The card is read, whether before or after the other one is punched. -/
theorem run_swaps_reader_and_punch :
    let run := (idle readerAndPunch).run [⟨17, .output, 0⟩, ⟨16, .input, 16⟩]
    let swapped := (idle readerAndPunch).run [⟨16, .input, 16⟩, ⟨17, .output, 0⟩]
    run.channel.machine.memory[16]? = some (.truncate .positive 0x1000000) ∧
      run.channel.machine.memory = swapped.channel.machine.memory ∧
      run.channel.machine.files.read "p0.card" =
        swapped.channel.machine.files.read "p0.card" := by
  intro run swapped
  have apart :
      ((idle readerAndPunch).run []).channel.machine.Independent ⟨17, .output, 0⟩
        ⟨16, .input, 16⟩ :=
    independent_readerAndPunch.of_atRest_eq
      ((idle readerAndPunch).run_eq_performAll [] 0).2.2.2.symm
  rcases run_swap_of_independent (idle readerAndPunch) [] [] _ _ apart with
    ⟨-, -, -, memory, -, -, read⟩
  have served :
      run.channel.machine.memory =
        (readerAndPunch.performAll 0 [⟨17, .output, 0⟩, ⟨16, .input, 16⟩]).machine.memory := by
    have ended := ((idle readerAndPunch).run_eq_performAll
      [⟨17, .output, 0⟩, ⟨16, .input, 16⟩] 0).2.2.2
    rw [← Machine.memory_atRest, ended, Machine.memory_atRest]
    rfl
  refine ⟨?_, memory, read "p0.card"⟩
  rw [served]
  decide +kernel

end Channel

end MixUnits
