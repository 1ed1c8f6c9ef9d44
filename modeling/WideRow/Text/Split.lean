namespace WideRow.Text

variable {α : Type} [DecidableEq α]

/-- Pieces between the separators, where the first `skip` letters belong to one already found. -/
def pieces (sep : List α) : Nat → List α → List (List α)
  | _, [] => [[]]
  | skip + 1, _ :: xs => pieces sep skip xs
  | 0, x :: xs =>
    if sep.isPrefixOf (x :: xs) then [] :: pieces sep (sep.length - 1) xs
    else
      match pieces sep 0 xs with
      | [] => [[x]]
      | p :: ps => (x :: p) :: ps

def split (sep : String) (s : String) : List String :=
  if sep.isEmpty then [s] else (pieces sep.toList 0 s.toList).map String.ofList

def join (sep : String) (parts : List String) : String :=
  sep.intercalate parts

def occursIn (sep : List α) : List α → Bool
  | [] => sep.isEmpty
  | x :: xs => sep.isPrefixOf (x :: xs) || occursIn sep xs

/-- Whether the text holds the separator, which an empty one never counts as. -/
def holds (sep : String) (s : String) : Bool := !sep.isEmpty && occursIn sep.toList s.toList

end WideRow.Text
