import RequestLint.Command.Report
import RequestLint.Terminal.Rendering

/-! What a terminal shows of what it is handed, with tables in a plain layout. -/
namespace RequestLint.Command

/-- The table with its texts as they show. -/
def Table.shown (table : Table) : Table where
  title := Terminal.rendered true table.title
  header := table.header.map (Terminal.rendered true)
  rows := table.rows.map (·.map (Terminal.rendered true))

def Printed.shown : Printed → Printed
  | text handed => text (Terminal.line true [handed])
  | table handed => table handed.shown

def pad (width : Nat) (text : String) : String :=
  text ++ String.ofList (List.replicate (width - text.length) ' ')

/-- The width of each column: that of its longest cell. -/
def columnWidths (rows : List (List String)) : List Nat :=
  rows.foldl (fun widths row =>
    (widths.zip row).map fun (width, cell) => max width cell.length)
    ((rows.head?.getD []).map fun _ => 0)

/-- A table as lines of padded columns under its title. -/
def Table.layout (table : Table) : String :=
  let rows := table.header :: table.rows
  let widths := columnWidths rows
  let line (row : List String) := String.intercalate "  " (List.zipWith pad widths row) ++ "\n"
  table.title ++ "\n" ++ String.join (rows.map line)

def Printed.layout : Printed → String
  | .text shown => shown
  | .table shown => shown.layout

end RequestLint.Command
