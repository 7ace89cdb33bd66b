import Readout.Settings.Value

/-!
# Merging of values

A program puts later values over earlier ones: tables are merged key by key, and everything
else is replaced.
-/

namespace Readout.Settings.Value

mutual

def merge : (earlier later : Value) → Value
  | table earlier, table later => table (mergeEntries earlier later)
  | _, later => later

def mergeEntries (earlier : Table) : (later : Table) → Table
  | [] => earlier
  | (key, value) :: later =>
      let merged :=
        match find? key earlier with
        | some old => merge old value
        | none => value
      put key merged (mergeEntries earlier later)

end

end Readout.Settings.Value
