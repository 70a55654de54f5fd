import MixUnits.Proofs.Reports
import MixUnits.Proofs.Run
import MixUnits.Proofs.Stints

/-!
# Which operations are reported

Every operation of a device is reported when it has ended, accepted or not, and nothing else
is reported in this way; so the operations that took place can be told from what was reported.
A request for an empty unit is no operation.  Devices do not come or go while requests are
performed, so the operations of a run are the requests whose units have devices.
-/

namespace MixUnits

/-- The request whose operation a notice reports, if it reports one. -/
def Notice.operation? : Notice → Option Request
  | .requestEnded request _ => some request
  | _ => none

/-- The operations that some notices report, in order. -/
def operations (notices : List Notice) : List Request :=
  notices.filterMap Notice.operation?

@[simp]
theorem operations_append (notices others : List Notice) :
    operations (notices ++ others) = operations notices ++ operations others :=
  List.filterMap_append

namespace BlockStore

theorem operations_transferNotices
    {geometry : Geometry}
    (store : BlockStore geometry)
    (index length : Nat) :
    operations (store.transferNotices index length) = [] := by
  apply List.filterMap_eq_nil_iff.2
  intro notice member
  rcases store.mem_transferNotices index length member with ⟨rfl, -⟩ | rfl
  · rfl
  · rfl

end BlockStore

namespace FileSystem

/-- Saving a file reports no operation if its failure is not reported as one. -/
theorem operations_replace
    (files : FileSystem)
    (path : String)
    (contents : Thunk (Array UInt8))
    {report : FileError → Notice}
    (silent : ∀ error, (report error).operation? = none) :
    operations (files.replace path contents report).2 = [] := by
  rcases files.notices_replace path contents report with ⟨-, saving⟩ | ⟨error, -, saving⟩
  · rw [saving]
    rfl
  · rw [saving]
    exact List.filterMap_cons_none (silent error)

end FileSystem

namespace Drive

variable {medium : Medium}

theorem operations_mount
    (files : FileSystem)
    (path : String) :
    operations (mount files path : Drive medium × List Notice).2 = [] := by
  rw [mount]
  cases files.read path with
  | error error =>
      cases error with
      | notFound => rfl
      | _ => rfl
  | ok image =>
      simp only
      split
      · rfl
      · rfl

theorem operations_input
    (drive : Drive medium)
    (now : UInt64)
    (buffer : Buffer) :
    operations (drive.input now buffer).notices = [] := by
  rw [input]
  cases drive.store.readBlock? drive.store.cursor buffer with
  | none => exact drive.store.operations_transferNotices _ _
  | some filled =>
      simp only [operations_append, drive.store.operations_transferNotices, List.nil_append]
      rfl

theorem operations_output
    (drive : Drive medium)
    (now : UInt64)
    (files : FileSystem)
    (buffer : Buffer) :
    operations (drive.output now files buffer).notices = [] := by
  rw [output]
  cases drive.store.writeBlock? drive.store.cursor buffer with
  | none => exact drive.store.operations_transferNotices _ _
  | some written =>
      simp only [operations_append, drive.store.operations_transferNotices, List.nil_append]
      exact files.operations_replace _ _ fun _ => rfl

end Drive

namespace Device

variable
  (device : Device)
  (now : UInt64)
  (files : FileSystem)
  (buffer : Buffer)

/-- No device reports operations; that is left to the machine. -/
theorem operations_input : operations (device.input now files buffer).notices = [] := by
  cases device with
  | tape unit => exact unit.operations_input now buffer
  | disk unit => exact unit.operations_input now buffer
  | cardReader unit =>
      rw [input, CardReader.input]
      cases files.read (Card.path unit.deck unit.store.cursor) with
      | ok contents => rfl
      | error error => rfl
  | typewriter unit =>
      show operations (unit.input now buffer).notices = []
      rw [(unit.input_eq_reads now buffer).2.2.2]
      rcases Keyboard.notices_line_cases (5 * min buffer.size 14) unit.source with
        ⟨-, none⟩ | ⟨cause, -, one⟩
      · rw [none]
        rfl
      · rw [one]
        rfl
  | probe unit => rfl
  | cardPunch unit => rfl
  | linePrinter unit => rfl
  | paperTape unit => rfl
  | inert unit => rfl

theorem operations_output : operations (device.output now files buffer).notices = [] := by
  cases device with
  | tape unit => exact unit.operations_output now files buffer
  | disk unit => exact unit.operations_output now files buffer
  | cardPunch unit => exact files.operations_replace _ _ fun _ => rfl
  | linePrinter unit =>
      show operations (unit.output now buffer).notices = []
      rw [LinePrinter.output]
      rcases unit.sink.deliver (LinePrinter.line buffer) with ⟨sink, _ | cause⟩
      · rfl
      · rfl
  | paperTape unit =>
      show operations (unit.output now files buffer).notices = []
      rw [PaperTape.output, operations_append, files.operations_replace _ _ fun _ => rfl,
        List.append_nil]
      split
      · rfl
      · rfl
  | probe unit => rfl
  | cardReader unit => rfl
  | typewriter unit => rfl
  | inert unit => rfl

theorem operations_control (mode : UInt32) :
    operations (device.control mode).notices = [] := by
  cases device with
  | disk unit =>
      show operations (unit.seek mode.toNat).notices = []
      rcases notices_seek unit mode.toNat with ⟨-, -, none⟩ | ⟨-, -, one⟩
      · rw [none]
        rfl
      · rw [one]
        rfl
  | _ => rfl

end Device

/-- A refusal is reported besides the operation. -/
theorem Channel.operations_refusal (completion : Completion) :
    operations (refusal completion) = [] := by
  rw [refusal]
  split
  · rfl
  · rfl

namespace Machine

variable
  (machine : Machine)
  (now : UInt64)

theorem operations_operate
    (request : Request)
    (device : Device) :
    operations (machine.operate now request device).notices = [] := by
  rw [operate]
  cases request.operation with
  | control mode => exact device.operations_control mode
  | input =>
      cases machine.windowEnd? device request.address with
      | none => rfl
      | some stop => exact device.operations_input now machine.files _
  | output =>
      cases machine.windowEnd? device request.address with
      | none => rfl
      | some stop => exact device.operations_output now machine.files _

/-- Whether a unit has a device. -/
def isAttached (request : Request) : Bool :=
  (machine.device? request.unit).isSome

/-- Performing a request is one operation if its unit has a device, and none otherwise. -/
theorem operations_perform (request : Request) :
    operations (machine.perform now request).notices = [request].filter machine.isAttached := by
  rw [perform, List.filter_cons, List.filter_nil, isAttached]
  cases machine.device? request.unit with
  | none => rfl
  | some device =>
      simp only [operations_append, operations_operate, List.nil_append]
      rfl

/-- Devices do not come or go while a request is performed. -/
theorem isAttached_perform (request : Request) :
    (machine.perform now request).unit.isAttached = machine.isAttached := by
  funext other
  rw [isAttached, isAttached]
  by_cases own : other.unit = request.unit
  · rw [own]
    cases found : machine.device? request.unit with
    | none => rw [perform_of_empty now found, Answer.refused, found]
    | some device =>
        rcases device?_perform_self found now with ⟨next, performed, -⟩
        rw [performed, Option.isSome_some, Option.isSome_some]
  · rw [machine.device?_perform_of_ne now own]

/-- Of the requests that are served those are operations whose units have devices. -/
theorem operations_serve (requests : List Request) :
    operations (machine.serve now requests).notices = requests.filter machine.isAttached := by
  induction requests generalizing machine now with
  | nil => rfl
  | cons request rest ih =>
      rw [serve, operations_append, operations_append, operations_perform, Channel.operations_refusal,
        List.append_nil, ih, isAttached_perform, ← List.filter_append, List.singleton_append]

end Machine

/-- The operations of a run are the requests whose units have devices, once and in order. -/
theorem Channel.operations_run
    (machine : Machine)
    (requests : List Request) :
    operations ((idle machine).run requests).notices = requests.filter machine.isAttached :=
  (congrArg operations (servedBy_run (idle machine) requests).reported).trans
    (machine.operations_serve 0 requests)

end MixUnits
