import Tablekeep.Command.Invocation
import Tablekeep.Journal
import Tablekeep.Text.Blank

/-!
# What is shown on a terminal

A terminal without colours shows the lines of the journal without their style marks, and tables with
their columns under each other. Records of the lowest level are for those who ask for them.
-/

namespace Tablekeep.Command

/-! ## Style marks -/

/-- A character that a style mark may begin with. -/
def beginsMark (c : Char) : Bool :=
  c.isLower || c == '/' || c == '#' || c == '@'

/-- How many characters after an opening bracket belong to a style mark; none if it is no mark. -/
def markLength (cs : List Char) : Nat :=
  let inside := cs.takeWhile fun c => c ≠ ']' ∧ c ≠ '['
  match inside, cs.drop inside.length with
  | c :: _, ']' :: _ => if beginsMark c then inside.length + 1 else 0
  | _, _ => 0

/-- The characters without style marks. `skip` characters of a mark are still to be passed over. -/
def unmarked : Nat → List Char → List Char
  | _, [] => []
  | skip + 1, _ :: cs => unmarked skip cs
  | 0, c :: cs =>
    let length := if c = '[' then markLength cs else 0
    if length = 0 then c :: unmarked 0 cs else unmarked length cs

/-- The text without style marks. -/
def withoutMarks (s : String) : String :=
  String.ofList (unmarked 0 s.toList)

/-! ## Tables -/

/-- The text with blanks behind it, so that it is as wide as asked for. -/
def padded (width : Nat) (s : String) : String :=
  s ++ String.ofList (List.replicate (width - s.length) ' ')

/-- The greatest width in each column. -/
def columnWidths (rows : List (List String)) : List Nat :=
  rows.foldl
    (fun widths row =>
      let cells := row.map String.length
      (widths.zipWith max cells) ++ widths.drop cells.length ++ cells.drop widths.length)
    []

/-- The lines of a table. -/
def tableLines (title : String) (columns : List String) (rows : List (List String)) :
    List String :=
  let cells := (columns :: rows).map (·.map withoutMarks)
  let widths := columnWidths cells
  withoutMarks title :: cells.map fun row => Text.join "  " (widths.zipWith padded row)

/-! ## Entries -/

/-- The entry is shown; to the `curious` everything is. -/
def isShown (curious : Bool) : Entry → Bool
  | .record .debug _ => curious
  | _ => true

/-- The lines of an entry. -/
def entryLines : Entry → List String
  | .record level text => [level.name ++ " " ++ text]
  | .line text => [withoutMarks text]
  | .plain text => [text]
  | .table title columns rows => tableLines title columns rows

/-- The lines of a journal. -/
def journalLines (curious : Bool) (journal : List Entry) : List String :=
  (journal.filter (isShown curious)).flatMap entryLines

/-! ## Help -/

/-- What a command line may be. -/
def usageLines : List String :=
  ["usage: dbtools [--config FILE] [-v] ddl FILE [--dialect NAME]",
    "       dbtools [--config FILE] [-v] servers",
    "       dbtools [--config FILE] [-v] list SERVER",
    "       dbtools [--config FILE] [-v] restore SERVER DATABASE [BACKUP]"]
  ++ (Action.all.filter (· ≠ .restore)).map fun a =>
    "       dbtools [--config FILE] [-v] " ++ a.name ++ " SERVER DATABASE"

end Tablekeep.Command
