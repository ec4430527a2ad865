import RecordFilter.Calendar.Instant

/-!
# Reading dates and date-times

The forms in which a date or a date-time may be written, in the order in which
they are tried.
-/

namespace RecordFilter.Calendar

/-- Reads a date. -/
def Date.read (cs : List Char) : Except LayoutFault Date :=
  Layout.firstSuccess (·.readDate cs) .slashDate [.isoDate]

/-- Reads a date-time: as an instant, in one of the layouts, or as a date that
stands for its beginning. The fault is that of the last date-time layout. -/
def DateTime.read (cs : List Char) : Except LayoutFault DateTime :=
  match (Instant.read? cs).bind (·.universal?) with
  | some t => .ok t
  | none =>
    match Layout.firstSuccess (·.readDateTime cs) .lastDateTime Layout.dateTimes with
    | .ok t => .ok t
    | .error fault =>
      match Date.read cs with
      | .ok d => .ok (.startOf d)
      | .error _ => .error fault

end RecordFilter.Calendar
