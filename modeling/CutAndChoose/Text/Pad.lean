/-!
# CutAndChoose.Text.Pad

Columns of a table: text padded with blanks to a width; longer text keeps its length.
-/

namespace CutAndChoose

def alignLeft (width : Nat) (s : List Char) : List Char :=
  s ++ List.replicate (width - s.length) ' '

def alignRight (width : Nat) (s : List Char) : List Char :=
  List.replicate (width - s.length) ' ' ++ s

end CutAndChoose
