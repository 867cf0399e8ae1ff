/-!
# Lines — splitting text at line ends

A line ends at a line feed; a carriage return directly before that line feed belongs to the line
end, and every other carriage return belongs to the line.
-/
namespace EtcdKit.Text

/-- A line without one final carriage return, if it has one. -/
def dropReturn (line : List Char) : List Char :=
  match line.reverse with
  | '\r' :: front => front.reverse
  | _ => line

/-- All parts but the last are closed by a line feed; a carriage return before it goes with it. -/
def closeLines : List (List Char) → List (List Char)
  | [] => []
  | [last] => [last]
  | line :: next :: rest => dropReturn line :: closeLines (next :: rest)

def lines (s : String) : List String :=
  ((closeLines (s.toList.splitOn '\n')).filter (fun line => !line.isEmpty)).map String.ofList

end EtcdKit.Text
